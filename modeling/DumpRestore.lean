import DumpRestore.Main
import DumpRestore.Proofs.Column.Bodies
import DumpRestore.Proofs.Column.Escapes
import DumpRestore.Proofs.Column.Front
import DumpRestore.Proofs.Column.Groups
import DumpRestore.Proofs.Column.Literals
import DumpRestore.Proofs.Column.Ordering
import DumpRestore.Proofs.Column.Rewriting
import DumpRestore.Proofs.Connection.Calls
import DumpRestore.Proofs.Connection.Direct
import DumpRestore.Proofs.Connection.Names
import DumpRestore.Proofs.Connection.Reading
import DumpRestore.Proofs.Dump.Alteration
import DumpRestore.Proofs.Dump.Attribution
import DumpRestore.Proofs.Dump.Front
import DumpRestore.Proofs.Dump.Quoting
import DumpRestore.Proofs.Insert.Styles
import DumpRestore.Proofs.Like
import DumpRestore.Proofs.Probe.Catalog
import DumpRestore.Proofs.Probe.Cleanup
import DumpRestore.Proofs.Probe.Naming
import DumpRestore.Proofs.Probe.Suppression
import DumpRestore.Proofs.SqlMode
import DumpRestore.Proofs.Table.Borders
import DumpRestore.Proofs.Table.Comments
import DumpRestore.Proofs.Table.Description
import DumpRestore.Proofs.Table.Prefix
import DumpRestore.Proofs.Table.Splitting
import DumpRestore.Proofs.Toolkit.Probing
import DumpRestore.Proofs.Toolkit.Screens
import DumpRestore.Proofs.Toolkit.Version
import DumpRestore.Server.Script
