import Veramo.Agent

/-!
This module contains the handler chain of the message handler plugin. A handler is handed what
`super.handle` does, the rest of the chain, and decides on the in-flight message whether to handle
it or to call that rest. A chain is an ordered list of handlers; its end signals an unsupported
message type.
-/

namespace Veramo

/-- A message handler (`AbstractMessageHandler.handle`), given what `super.handle` does. -/
abbrev Handler := HandleM Unit → HandleM Unit

/--
Modelled from the spec: the end of the chain, `AbstractMessageHandler.handle` without a next
handler, signals an unsupported message type.
-/
def unsupportedMessageType : HandleM Unit := throw "unsupported_message_type"

/-- The chain built from an ordered list of handlers, with `last` after them. -/
def runChain (last : HandleM Unit) : List Handler → HandleM Unit
  | [] => last
  | h :: hs => h (runChain last hs)

/-- `h` passes every message of type `type` on to the next handler, unchanged and without effect. -/
def PassesOn (h : Handler) (type : String) : Prop :=
  ∀ next s, s.message.type = type → h next s = next s

variable {last : HandleM Unit}

@[simp] theorem runChain_nil : runChain last [] = last := rfl

@[simp] theorem runChain_cons (h : Handler) (hs : List Handler) :
    runChain last (h :: hs) = h (runChain last hs) := rfl

theorem runChain_append (hs gs : List Handler) :
    runChain last (hs ++ gs) = runChain (runChain last gs) hs := by
  induction hs with
  | nil => rfl
  | cons h hs ih => simp [ih]

theorem runChain_append_of_passesOn {pre : List Handler} {type : String}
    (hpre : ∀ h ∈ pre, PassesOn h type) (gs : List Handler) (s : Handling)
    (hs : s.message.type = type) :
    runChain last (pre ++ gs) s = runChain last gs s := by
  induction pre with
  | nil => rfl
  | cons h pre ih =>
    rw [List.cons_append, runChain_cons,
      hpre h (List.mem_cons_self h pre) _ s hs]
    exact ih fun h' hh' => hpre h' (List.mem_cons_of_mem h hh')

theorem runChain_append_cons_of_passesOn {pre post : List Handler} {h : Handler} {type : String}
    (hpre : ∀ h ∈ pre, PassesOn h type) (s : Handling) (hs : s.message.type = type) :
    runChain last (pre ++ h :: post) s = h (runChain last post) s := by
  rw [runChain_append_of_passesOn hpre _ s hs, runChain_cons]

end Veramo
