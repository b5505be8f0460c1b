import FlutterInstaller.Decimal.Shortest
import FlutterInstaller.Main
import FlutterInstaller.Proofs.Config.Faults
import FlutterInstaller.Proofs.Config.Independence
import FlutterInstaller.Proofs.Config.Existing
import FlutterInstaller.Proofs.Config.Identifier
import FlutterInstaller.Proofs.Script.Constants
import FlutterInstaller.Proofs.Script.Neighbours
import FlutterInstaller.Proofs.Script.Shortcuts
import FlutterInstaller.Proofs.Cli.Pipeline
import FlutterInstaller.Proofs.Text.Returns
import FlutterInstaller.Proofs.Script.FreeTexts
import FlutterInstaller.Proofs.FileSystem.Footprint
import FlutterInstaller.Proofs.Host.Footprint
import FlutterInstaller.Proofs.Script.Footprint
import FlutterInstaller.Proofs.Script.Entries
import FlutterInstaller.Proofs.Script.Languages
import FlutterInstaller.Proofs.Host.Containment
import FlutterInstaller.Proofs.Script.Shipment
import FlutterInstaller.Proofs.Script.Modes
import FlutterInstaller.Proofs.Host.Copies
import FlutterInstaller.Proofs.Config.View
import FlutterInstaller.Proofs.Script.Escaping
import FlutterInstaller.Proofs.Text.Capitals
import FlutterInstaller.Proofs.Text.Folding
import FlutterInstaller.Proofs.Config.DefaultName
import FlutterInstaller.Proofs.Config.Identity
