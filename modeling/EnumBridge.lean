import EnumBridge.Relay.Stack
import EnumBridge.Bridge.Variables
import EnumBridge.Bridge.Response
import EnumBridge.Rule.ConfigText
import EnumBridge.FieldTree.Flatten
import EnumBridge.Schema.Draft
import EnumBridge.Document.Reader
import EnumBridge.Schema.Reader
import EnumBridge.Json.Reader
import EnumBridge.Json.Printer
import EnumBridge.Naming.Style
import EnumBridge.Text.Quoted
import EnumBridge.Proofs.EnumSite
import EnumBridge.Proofs.ResponseSite
import EnumBridge.Proofs.CanonicalJson
import EnumBridge.Proofs.VariableSite
import EnumBridge.Proofs.FieldGroup
import EnumBridge.Proofs.FlattenedTree
import EnumBridge.Proofs.SharedSlot
import EnumBridge.Proofs.ExpansionMeasure
import EnumBridge.Proofs.FlattenLimits
import EnumBridge.Proofs.FragmentCycle
import EnumBridge.Proofs.RelayedStream
import EnumBridge.Proofs.StackedBridges
import EnumBridge.Proofs.SessionLifecycle
import EnumBridge.Proofs.RoundTrip
import EnumBridge.Proofs.MergedSchema
import EnumBridge.Proofs.SplitDefinition
import EnumBridge.Proofs.LastSetting
import EnumBridge.Proofs.ResponseFrame
import EnumBridge.Proofs.MetValue
import EnumBridge.Proofs.InlinedFragment
import EnumBridge.Proofs.UnusedDefinition
import EnumBridge.Proofs.FlattenedSize
import EnumBridge.Proofs.NullValue
import EnumBridge.Proofs.ReorderedSelection
import EnumBridge.Proofs.ReorderedResponse
import EnumBridge.Proofs.TableRoundTrip
import EnumBridge.Proofs.NameWords
import EnumBridge.Proofs.SeparatedStyle
import EnumBridge.Proofs.JoinedStyle
import EnumBridge.Proofs.BoxedVariable
import EnumBridge.Proofs.SchemaRoots
import EnumBridge.Proofs.BuiltSchema
import EnumBridge.Proofs.ByteOrder
import EnumBridge.Proofs.StrictSettings
import EnumBridge.Proofs.QuietWalk
import EnumBridge.Proofs.FailingValue
import EnumBridge.Proofs.DowngradedResponse
import EnumBridge.Proofs.WrittenResponse
import EnumBridge.Proofs.TypeText
