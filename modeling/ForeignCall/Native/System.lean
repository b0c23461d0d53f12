import ForeignCall.Call
import ForeignCall.Native.Probe

/-!
# A system to call into

A process with the C library, the mathematics library and, if wanted, the probe routines. The
process exports what is linked into it; the two libraries load under their usual names and no other
library loads.

## Main definitions

* `Native.symbols`, `Native.addressOf?`: all routines, and where they lie;
* `Native.system`: the system.
-/

namespace ForeignCall.Native

/-- All routines, in the order of their addresses. -/
def symbols : List Symbol := probeRoutines ++ cRoutines ++ mathRoutines

/-- The address of the routine that a symbol names. -/
def addressOf? (name : String) : Option UInt64 :=
  (symbols.findIdx? fun s => s.name == name).map codeAddress

/-- A library that exports some of the routines. -/
def exporting (exported : List Symbol) : Library := fun name =>
  if exported.any (fun s => s.name == name) then addressOf? name else none

/-- The routine at an address. -/
def codeAt (address : UInt64) : Option Callee :=
  let offset := address.toNat - (codeAddress 0).toNat
  if (codeAddress 0).toNat ≤ address.toNat ∧ offset % 16 = 0 then
    symbols[offset / 16]?.map Symbol.callee
  else none

/-- The reason that is given for a library that does not exist. -/
def missingFile (name : String) : String :=
  name ++ ": cannot open shared object file: No such file or directory"

/-- The libraries of a process that exports some routines itself. -/
def libraries (linked : List Symbol) : Libraries where
  process := exporting linked
  load name :=
    if name = "libc.so.6" then .ok (exporting cRoutines)
    else if name = "libm.so.6" then .ok (exporting mathRoutines)
    else .error (missingFile name)

/-- The system: a process with or without the probes. -/
def system (withProbes : Bool) : World where
  libraries := libraries ((if withProbes then probeRoutines else []) ++ cRoutines)
  code := codeAt
  data := dataBlocks

end ForeignCall.Native
