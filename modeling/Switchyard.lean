import Switchyard.Diagnostic.Listener
import Switchyard.Document.Limit
import Switchyard.Main
import Switchyard.Proofs.Command.Accounting
import Switchyard.Proofs.Command.Spelling
import Switchyard.Proofs.Config.Expansion
import Switchyard.Proofs.Config.Servers
import Switchyard.Proofs.Diagnostic.Listeners
import Switchyard.Proofs.Diagnostic.Mirror
import Switchyard.Proofs.Diagnostic.Snapshot
import Switchyard.Proofs.Document.Glob
import Switchyard.Proofs.Document.Language
import Switchyard.Proofs.Document.Selector
import Switchyard.Proofs.Registry.Counts
import Switchyard.Proofs.Registry.Failures
import Switchyard.Proofs.Registry.Generations
import Switchyard.Proofs.Registry.Isolation
import Switchyard.Proofs.Registry.Keys
import Switchyard.Proofs.Registry.Prewarm
import Switchyard.Proofs.Registry.Published
import Switchyard.Proofs.Registry.Reopenings
import Switchyard.Proofs.Registry.Unusable
import Switchyard.Proofs.Registry.Versions
import Switchyard.Proofs.Rpc.Correlation
import Switchyard.Proofs.Rpc.Endings
import Switchyard.Proofs.Rpc.Handshake
import Switchyard.Proofs.Rpc.Payloads
import Switchyard.Proofs.Rpc.Replies
import Switchyard.Proofs.Server.Encodings
import Switchyard.Proofs.Server.Secret
import Switchyard.Proofs.Watch.Spelling
import Switchyard.Registry.Script
