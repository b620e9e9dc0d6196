import StepperMotion.Axis.Describe
import StepperMotion.Document.Command
import StepperMotion.Json.Writer
import StepperMotion.Proofs.Frequency
import StepperMotion.Proofs.Shutdown
import StepperMotion.Simulation.Operation
import StepperMotion.Station.Action
import StepperMotion.Proofs.Outdated
import StepperMotion.Proofs.Standstill
import StepperMotion.Proofs.Desk
import StepperMotion.Proofs.Delivery
import StepperMotion.Proofs.Stall
import StepperMotion.Proofs.Handled
import StepperMotion.Proofs.Commandable
import StepperMotion.Proofs.Ending
import StepperMotion.Proofs.Forgetting
import StepperMotion.Proofs.Isolation
import StepperMotion.Proofs.SpeedProfile
import StepperMotion.Proofs.StepCount
import StepperMotion.Proofs.AllOrNothing
import StepperMotion.Proofs.StallCount
import StepperMotion.Proofs.StallDetection
import StepperMotion.Proofs.SingleRest
import StepperMotion.Proofs.Mirror
import StepperMotion.Proofs.SlewRate
import StepperMotion.Proofs.Symmetry
import StepperMotion.Proofs.Validation
import StepperMotion.Proofs.Approach
import StepperMotion.Proofs.Burst
import StepperMotion.Proofs.Cadence
import StepperMotion.Proofs.Inquiry
import StepperMotion.Proofs.Pulses
import StepperMotion.Proofs.Output
import StepperMotion.Proofs.Retuning
import StepperMotion.Proofs.Loading
