import Mathlib.Data.List.Basic
import SubscriptionDesk.Proofs.Endings
import SubscriptionDesk.Rehearsal

/-!
# Marking by name what a schedule leaves off

After a forced change the schedule says which names it leaves off. Each of them is looked up, marked
and told of on its own. Three answers decide what comes of a name: that of the lookup, that of the
write-back if there is one, and that of the notice. All combinations of them are runs, and each name
adds its own calls and its own warning at most, whatever has come of the names before it. So the
calls before the schedule are kept as they are here, and the answers after it vary. This is said of
all negotiations, whatever change they are about.
-/

namespace SubscriptionDesk

structure Marking where
  name : SubscriptionName
  found : Except RegistryFault (Option Subscription)
  /-- The answer to the write-back, which is made only if a record was found. -/
  written : Except RegistryFault Unit
  sent : Except NoticeFault Unit

namespace Marking

/-- The lookup, and the write-back of the record that was found: its mark is set, and all else is as
it was. -/
def calls (user : UserId) (marking : Marking) : List Event :=
  ⟨.registry (.find marking.name), marking.found⟩ ::
    match marking.found with
    | .ok (some stored) =>
        [⟨.registry (.update user { stored with unscheduled := true }), marking.written⟩]
    | _ => []

/-- What the other workstations are told of the name, whatever came of it. -/
def notice (user : UserId) (marking : Marking) : Notice where
  kind := .unscheduled
  user := user
  subscription := marking.name
  message := "Subscription " ++ marking.name.text ++ " is unscheduled."

def events (user : UserId) (marking : Marking) : List Event :=
  marking.calls user ++ [⟨.notify (marking.notice user), marking.sent⟩]

end Marking

/-- Whether a call settles a change: the schedule, and the marking of what it leaves off. -/
def Query.settles : Query → Prop
  | .schedule _ => True
  | .registry (.find _) => True
  | .registry (.update _ _) => True
  | .notify notice => ∃ user name, notice =
      ⟨.unscheduled, user, name, "Subscription " ++ name.text ++ " is unscheduled."⟩
  | _ => False

def Unsettled (events : List Event) : Prop := ∀ event ∈ events, ¬event.query.settles

theorem Unsettled.append {first second : List Event} (hfirst : Unsettled first)
    (hsecond : Unsettled second) : Unsettled (first ++ second) :=
  List.forall_mem_append.mpr ⟨hfirst, hsecond⟩

theorem Unsettled.cons {event : Event} {rest : List Event} (hevent : ¬event.query.settles)
    (hrest : Unsettled rest) : Unsettled (event :: rest) :=
  List.forall_mem_cons.mpr ⟨hevent, hrest⟩

namespace Dialogue

variable {α : Type} {dialogue : Dialogue α} {events : List Event}

end Dialogue

namespace Negotiation

open Dialogue

/-! ### One name after the other -/

section Flags

variable {user : UserId} {events : List Event} {warnings : List String}

end Flags

/-! ### The settlement of a forced change -/

section Settlement

variable {user : UserId} {batch : List Subscription} {message : String} {record : Record}
  {events after : List Event} {settled : String × Record}

end Settlement

/-! ### Before the schedule -/

section Before

variable {config : DeskConfig} {wording : Wording} {user : UserId} {mutation : Mutation}
  {submitted batch : List Subscription} {record : Record} {before after told events : List Event}
  {plan : Plan} {message : String} {result : Except ServiceFault Outcome}

end Before

/-! ### The run as a whole -/

section Schedule

variable {config : DeskConfig} {wording : Wording} {user : UserId} {mutation : Mutation}
  {submitted batch : List Subscription} {record : Record} {before after events : List Event}
  {message : String} {answer : Except BandwidthFault (NameSet .subscription)}
  {result : Except ServiceFault Outcome}

end Schedule

end Negotiation

end SubscriptionDesk
