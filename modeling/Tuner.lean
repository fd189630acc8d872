import Tuner.Bench.Stage
import Tuner.Bench.Stub
import Tuner.Bench.Trial
import Tuner.Form.Command
import Tuner.Form.Event
import Tuner.Main
import Tuner.Proofs.Account
import Tuner.Proofs.Answers
import Tuner.Proofs.Arithmetic
import Tuner.Proofs.Blind
import Tuner.Proofs.Caller
import Tuner.Proofs.Channels
import Tuner.Proofs.Concord
import Tuner.Proofs.Conduct
import Tuner.Proofs.Contract
import Tuner.Proofs.Coupling
import Tuner.Proofs.Course
import Tuner.Proofs.Credit
import Tuner.Proofs.DecoderMode
import Tuner.Proofs.Decoding
import Tuner.Proofs.Delivery
import Tuner.Proofs.Drains
import Tuner.Proofs.Endings
import Tuner.Proofs.Errands
import Tuner.Proofs.Exchange
import Tuner.Proofs.Expiry
import Tuner.Proofs.Files
import Tuner.Proofs.FirstAnswer
import Tuner.Proofs.Fitting
import Tuner.Proofs.Found
import Tuner.Proofs.Grid
import Tuner.Proofs.Hearing
import Tuner.Proofs.Hygiene
import Tuner.Proofs.InBand
import Tuner.Proofs.Instructions
import Tuner.Proofs.Interlude
import Tuner.Proofs.Keeping
import Tuner.Proofs.Landing
import Tuner.Proofs.Lawful
import Tuner.Proofs.Lexing
import Tuner.Proofs.Listeners
import Tuner.Proofs.Loss
import Tuner.Proofs.Messages
import Tuner.Proofs.Nearest
import Tuner.Proofs.Nesting
import Tuner.Proofs.NoTrace
import Tuner.Proofs.Opening
import Tuner.Proofs.PowerUp
import Tuner.Proofs.Punctual
import Tuner.Proofs.Queues
import Tuner.Proofs.Radio
import Tuner.Proofs.Rereading
import Tuner.Proofs.Retirement
import Tuner.Proofs.Run
import Tuner.Proofs.Scan
import Tuner.Proofs.Seek
import Tuner.Proofs.SeekEnds
import Tuner.Proofs.Session
import Tuner.Proofs.SideBySide
import Tuner.Proofs.Silence
import Tuner.Proofs.Slot
import Tuner.Proofs.Stopping
import Tuner.Proofs.Texts
import Tuner.Proofs.TuneOutcome
import Tuner.Proofs.Tuned
import Tuner.Proofs.Upkeep
import Tuner.Proofs.Within
