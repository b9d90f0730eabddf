import TopicBroker.Delivery.Creation
import TopicBroker.Delivery.Logging
import TopicBroker.Document.Alias
import TopicBroker.Document.Printer
import TopicBroker.Document.Reader
import TopicBroker.Failure
import TopicBroker.Log.Config.Reader
import TopicBroker.Log.Session
import TopicBroker.Scenario.Run
import TopicBroker.Settings.Environment
import TopicBroker.Settings.Reader
import TopicBroker.Proofs.Registry.Change
import TopicBroker.Proofs.Registry.Coherence
import TopicBroker.Proofs.Registry.Order
import TopicBroker.Proofs.Registry.Roster
import TopicBroker.Proofs.Registry.Decision
import TopicBroker.Proofs.Delivery.Act
import TopicBroker.Proofs.Delivery.Effect
import TopicBroker.Proofs.Delivery.Course
import TopicBroker.Proofs.Text.ByteOrder
import TopicBroker.Proofs.Delivery.Answers
import TopicBroker.Proofs.Delivery.Stack
import TopicBroker.Proofs.Delivery.Calls
import TopicBroker.Proofs.Delivery.Isolation
import TopicBroker.Proofs.Delivery.Transaction
import TopicBroker.Proofs.Delivery.Tenure
import TopicBroker.Proofs.Delivery.Unwinding
import TopicBroker.Proofs.Delivery.Accounts
import TopicBroker.Proofs.Delivery.Draws
import TopicBroker.Proofs.Registry.Commutation
import TopicBroker.Proofs.Delivery.Reordering
import TopicBroker.Proofs.Delivery.TwoPaths
import TopicBroker.Proofs.Registry.Naturality
import TopicBroker.Proofs.Delivery.Alike
import TopicBroker.Proofs.Delivery.Noninterference
import TopicBroker.Proofs.Delivery.Family
import TopicBroker.Proofs.Text.Ascii
import TopicBroker.Proofs.Settings.Scalar
import TopicBroker.Proofs.Settings.Variables
import TopicBroker.Proofs.Delivery.Creation
import TopicBroker.Proofs.Settings.Topics
import TopicBroker.Proofs.Settings.Words
import TopicBroker.Proofs.Settings.Separation
import TopicBroker.Proofs.Settings.Label
import TopicBroker.Proofs.Delivery.Runs
import TopicBroker.Proofs.Delivery.Outcome
import TopicBroker.Proofs.Message.Options
import TopicBroker.Proofs.Delivery.Explicit
import TopicBroker.Proofs.Registry.Renumbering
import TopicBroker.Proofs.Delivery.Bystander
import TopicBroker.Proofs.Delivery.Beside
import TopicBroker.Proofs.Delivery.Invisibility
import TopicBroker.Proofs.Delivery.Budget
import TopicBroker.Proofs.Scenario.Runs
import TopicBroker.Proofs.Scenario.Oblivious
import TopicBroker.Proofs.Scenario.Insertion
import TopicBroker.Proofs.Registry.Total
import TopicBroker.Proofs.Delivery.Logging
import TopicBroker.Proofs.Delivery.Journal
import TopicBroker.Proofs.Failure.Chain
import TopicBroker.Proofs.Failure.Discretion
import TopicBroker.Proofs.Text.Word
import TopicBroker.Proofs.Log.Directives
import TopicBroker.Proofs.Log.Levels
import TopicBroker.Proofs.Registry.Tour
import TopicBroker.Proofs.Delivery.Tour
import TopicBroker.Proofs.Log.Formats
import TopicBroker.Proofs.Ids.Uniqueness
