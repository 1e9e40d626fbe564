import NamedKeys.Main
import NamedKeys.Proofs.CommandLine.Inquiries
import NamedKeys.Proofs.CommandLine.Names
import NamedKeys.Proofs.CommandLine.Settings
import NamedKeys.Proofs.CommandLine.Unreadable
import NamedKeys.Proofs.Derivation.Phrase
import NamedKeys.Proofs.Generate.Hidden
import NamedKeys.Proofs.Generate.Phrases
import NamedKeys.Proofs.Generate.Usable
import NamedKeys.Proofs.KeyPair
import NamedKeys.Proofs.Keychain.Interchange
import NamedKeys.Proofs.Network
import NamedKeys.Proofs.Secret.Words
import NamedKeys.Proofs.Store.Listing
import NamedKeys.Proofs.Store.Paths
import NamedKeys.Proofs.Store.Repeated
import NamedKeys.Proofs.StoreLocation
import NamedKeys.Proofs.Yaml.Signs
