import RealmModels.Proofs.Template.Escaping
import RealmModels.Log.Setup
import RealmModels.Main
import RealmModels.Proofs.Command.Reporting
import RealmModels.Proofs.GraphQL.Layers
import RealmModels.Proofs.Model.CustomScalars
import RealmModels.Proofs.Model.FieldAccounts
import RealmModels.Proofs.Model.Forgetting
import RealmModels.Proofs.Model.Overloads
import RealmModels.Proofs.Model.ParameterTypes
import RealmModels.Proofs.Model.References
import RealmModels.Proofs.Model.Renaming
import RealmModels.Proofs.Model.Tidiness
import RealmModels.Proofs.Model.UncaughtScalars
import RealmModels.Proofs.Model.Unmarked
import RealmModels.Proofs.Naming.CamelCase
import RealmModels.Proofs.Naming.Search
import RealmModels.Proofs.Naming.Underscored
import RealmModels.Proofs.Script.Nesting
import RealmModels.Proofs.Script.Scopes
import RealmModels.Proofs.Settings.Saving
import RealmModels.Proofs.Swift.Comment
import RealmModels.Proofs.Swift.Forest
import RealmModels.Proofs.Swift.Identifier
import RealmModels.Proofs.Swift.Literal
import RealmModels.Script.Trace
