import ScriptProxy.Bytecode.Instruction
import ScriptProxy.Import.Hook
import ScriptProxy.Proofs.Bytecode.Contributions
import ScriptProxy.Proofs.Bytecode.SlotSums
import ScriptProxy.Proofs.Bytecode.Tiling
import ScriptProxy.Proofs.Bytes.Positions
import ScriptProxy.Proofs.ClassFile.AnnotationCodec
import ScriptProxy.Proofs.ClassFile.CodeLength
import ScriptProxy.Proofs.ClassFile.PoolSlots
import ScriptProxy.Proofs.ClassFile.PrefixFree
import ScriptProxy.Proofs.ClassFile.RoundTrip
import ScriptProxy.Proofs.Exchange.OneShot
import ScriptProxy.Proofs.Host.FailedRegistration
import ScriptProxy.Proofs.Host.PassThrough
import ScriptProxy.Proofs.Host.Whole
import ScriptProxy.Proofs.Import.AgentArguments
import ScriptProxy.Proofs.Import.Atomicity
import ScriptProxy.Proofs.Import.Batch
import ScriptProxy.Proofs.Import.Idempotence
import ScriptProxy.Proofs.Import.Interference
import ScriptProxy.Proofs.Import.Overflow
import ScriptProxy.Proofs.Import.ProxyCalls
import ScriptProxy.Proofs.Import.Registry
import ScriptProxy.Proofs.Import.Touched
import ScriptProxy.Proofs.Page.ByteOrderMark
import ScriptProxy.Proofs.Session.Agreement
import ScriptProxy.Proofs.Session.Handles
import ScriptProxy.Proofs.Session.Listing
import ScriptProxy.Proofs.Session.Progress
import ScriptProxy.Proofs.Text.Acceptance
import ScriptProxy.Session.Basic
