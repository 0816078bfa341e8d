import DecoderHost.Catalogue
import DecoderHost.EngineOption
import DecoderHost.Main
import DecoderHost.Program
import DecoderHost.Proofs.Bench.Instances
import DecoderHost.Proofs.CommandLine.Orders
import DecoderHost.Proofs.Config.Independence
import DecoderHost.Proofs.Config.RoundTrip
import DecoderHost.Proofs.Engine.Cache
import DecoderHost.Proofs.Flags.Wording
import DecoderHost.Proofs.Fleet.Occupancy
import DecoderHost.Proofs.Fleet.Verified
import DecoderHost.Proofs.Literal.LineByLine
import DecoderHost.Proofs.Literal.Numerals
import DecoderHost.Proofs.Memory.Journal
import DecoderHost.Proofs.Memory.Words
import DecoderHost.Proofs.Program.ModulePath
import DecoderHost.Proofs.Session.GuestText
import DecoderHost.Proofs.Session.Progress
import DecoderHost.Proofs.Session.Seeding
import DecoderHost.Proofs.StandIn.Concatenation
import DecoderHost.Text.Quoted
