import RPGLearnGame.Semantics.EventMachine
import RPGLearnGame.Semantics.Simulation
import RPGLearnGame.Semantics.Refinement
import RPGLearnGame.Semantics.Unwinding
import RPGLearnGame.Semantics.Mirror
import RPGLearnGame.Semantics.Twin
import RPGLearnGame.Semantics.Accounting
import RPGLearnGame.Semantics.Periodic
import RPGLearnGame.Semantics.Schedule
import RPGLearnGame.Semantics.Register
import RPGLearnGame.Semantics.Contraction
import RPGLearnGame.Semantics.SearchLoop
import RPGLearnGame.Arithmetic.Gauge
import RPGLearnGame.Arithmetic.Ledger
import RPGLearnGame.Arithmetic.Heading
import RPGLearnGame.Arithmetic.Easing
import RPGLearnGame.Arithmetic.Rotation
import RPGLearnGame.Arithmetic.BinaryFormat
import RPGLearnGame.Engine.Gameplay
import RPGLearnGame.Engine.World
import RPGLearnGame.Engine.Controls
import RPGLearnGame.Stats.Component
import RPGLearnGame.Stats.Range
import RPGLearnGame.Stats.Order
import RPGLearnGame.Stats.Ledger
import RPGLearnGame.UI.RPGHUD
import RPGLearnGame.UI.Listening
import RPGLearnGame.UI.Widgets
import RPGLearnGame.Character.Model
import RPGLearnGame.Character.Runs
import RPGLearnGame.Character.Gait
import RPGLearnGame.Character.Stamina
import RPGLearnGame.Character.Sprint
import RPGLearnGame.Character.Clock
import RPGLearnGame.Character.Timers
import RPGLearnGame.Character.Budget
import RPGLearnGame.Character.Camera
import RPGLearnGame.Character.FrameRate
import RPGLearnGame.Character.Death
import RPGLearnGame.Character.Collapse
import RPGLearnGame.Vault.Component
import RPGLearnGame.Vault.Scan
import RPGLearnGame.Vault.Runs
import RPGLearnGame.Vault.Path
import RPGLearnGame.Vault.Traces
import RPGLearnGame.Vault.Provenance
import RPGLearnGame.Vault.Placement
import RPGLearnGame.Vault.Landing
import RPGLearnGame.Animation.HeroAnimInstance
import RPGLearnGame.Animation.Turning
import RPGLearnGame.Animation.Following
import RPGLearnGame.Input.Bindings
import RPGLearnGame.Input.Steering
import RPGLearnGame.System.Game
import RPGLearnGame.System.Parts
import RPGLearnGame.System.Interleaving
import RPGLearnGame.System.Keys
