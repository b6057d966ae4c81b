import StubClass.Benchmark.Machine
import StubClass.Class.Order
import StubClass.Main
import StubClass.Session.Fixture
import StubClass.Text.Mask
import StubClass.Proofs.Method.Builder
import StubClass.Proofs.Signature.Binding
import StubClass.Proofs.Generator.Course
import StubClass.Proofs.Generator.Names
import StubClass.Proofs.Class.Access
import StubClass.Proofs.Signature.Agreement
import StubClass.Proofs.Generator.Keeping
import StubClass.Proofs.Class.Namespace
import StubClass.Proofs.Generator.Frozen
import StubClass.Proofs.Class.Building
import StubClass.Proofs.Class.Calling
import StubClass.Proofs.Generator.System
import StubClass.Proofs.Generator.Calls
import StubClass.Proofs.Settings
import StubClass.Proofs.Random.Drawing
import StubClass.Proofs.Class.Sharing
import StubClass.Proofs.Class.Sending
import StubClass.Proofs.Generator.Staying
import StubClass.Proofs.Class.Decorating
import StubClass.Proofs.Class.Owning
import StubClass.Proofs.Signature.Writing
import StubClass.Proofs.Class.Finding
import StubClass.Proofs.Class.Levels
import StubClass.Proofs.Options
import StubClass.Proofs.Default
import StubClass.Proofs.Benchmark.CommandLine
import StubClass.Proofs.Benchmark.Report
import StubClass.Proofs.Benchmark.Place
import StubClass.Proofs.Benchmark.Run
import StubClass.Outcome
import StubClass.Proofs.Correspondence.Session
