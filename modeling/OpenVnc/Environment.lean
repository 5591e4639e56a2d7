import OpenVnc.Process

/-!
# Assumptions on the environment

`Allowed` is all that is assumed of the network. The predicates here restrict the
application and the allocator, and a group of results names those it needs.
-/

namespace OpenVnc

/-- Every allocation succeeds. `alloc_framebuffer` succeeds too: it stores a block of
at least the requested size and changes no other field. -/
def AllocationsSucceed : (request : Request) → Answer request → Prop
  | .malloc _, allocated => allocated = true
  | .calloc _, block => block.isSome
  | .callocTransport, allocated => allocated = true
  | .allocFramebuffer asked, (error, left) =>
      error = none ∧ ∃ block : Block,
        left = { asked with data := some block } ∧ asked.dataSize ≤ block.bytes.length
  | _, _ => True

/-- No callback calls back into the library. -/
def NoReentry : (request : Request) → Answer request → Prop
  | .callback _, disconnects => disconnects = false
  | _, _ => True

/-- Any network, enough memory, an application that does not re-enter. -/
def Provisioned (request : Request) (answer : Answer request) : Prop :=
  Allowed request answer ∧ AllocationsSucceed request answer ∧ NoReentry request answer

end OpenVnc
