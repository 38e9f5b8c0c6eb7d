import Mathlib.Tactic.Lemma
import Shorthand.Bus.Basic

set_option autoImplicit false
set_option relaxedAutoImplicit false

/-!
# Deliveries

An event is delivered to one handler after the other, and a handler may do anything to the state,
also never end. What every handler keeps is kept by the whole delivery; and when every handler
ends, so does the delivery. Each handler is called in the state that the one before it has left,
with a failure reported.

## Main definitions

* `Shorthand.Leads` — what a run that may not end leads to.
* `Shorthand.Bus.Program.Delivers` — a delivery, with the states in which the handlers are called.

## Main results

* `Shorthand.Leads.bind` — one run after the other.
* `Shorthand.Bus.leads_emit_each` — an event is told to all its handlers, one after the other.
* `Shorthand.Bus.exists_delivers_emit` — an event that ends is a delivery to its handlers.
-/

namespace Shorthand

/-- A run ends with something of the property `P`, or it has no result; but that it can only have
when `ends` does not hold. With `True` for `ends` the run comes to its end, with `False` it need
not. -/
def Leads {α : Type} (ends : Prop) (P : α → Prop) : Option α → Prop
  | some a => P a
  | none => ¬ends

namespace Leads

variable {α β : Type} {ends : Prop} {P Q : α → Prop} {R : β → Prop} {o : Option α}

/-- What has one property has another. -/
lemma mono (h : Leads ends P o) (hPQ : ∀ a, P a → Q a) : Leads ends Q o := by
  cases o with
  | none => exact h
  | some a => exact hPQ a h

/-- A run that has to end in fewer cases. -/
lemma weaken {ends' : Prop} (h : Leads ends P o) (hends : ends' → ends) : Leads ends' P o := by
  cases o with
  | none => exact fun he => h (hends he)
  | some a => exact h

/-- What is made of a result. -/
lemma map {f : α → β} (h : Leads ends (fun a => R (f a)) o) : Leads ends R (o.map f) := by
  cases o with
  | none => exact h
  | some a => exact h

/-- **One run after the other:** the second starts with what the first ends with. -/
theorem bind {f : α → Option β} (h : Leads ends P o) (hf : ∀ a, P a → Leads ends R (f a)) :
    Leads ends R (o.bind f) := by
  cases o with
  | none => exact h
  | some a => exact hf a h

/-- A run that has a result has the property. -/
lemma of_eq_some {a : α} (h : Leads ends P o) (ha : o = some a) : P a := by
  subst ha
  exact h

/-- A run that has two properties has both. -/
lemma and (h : Leads ends P o) (h' : Leads False Q o) : Leads ends (fun a => P a ∧ Q a) o := by
  cases o with
  | none => exact h
  | some a => exact ⟨h, h'⟩

/-- A run that has to end has a result. -/
lemma exists_of_ends (h : Leads ends P o) (hends : ends) : ∃ a, o = some a ∧ P a := by
  cases o with
  | none => exact absurd hends h
  | some a => exact ⟨a, rfl, h⟩

end Leads

namespace Bus

variable {H σ : Type} {ends : Prop} {p : Program H σ} {event : Text}

/-- A delivery with handlers still to come: each of them leaves what the ones behind it start
from. -/
lemma leads_deliver {J : List H → σ → Prop} (hnote : ∀ entry hs s, J hs s → J hs (p.note entry s)) :
    ∀ (hs : List H),
      (∀ h ∈ hs, ∀ rest s, J (h :: rest) s → Leads ends (fun r => J rest r.2) (p.call h s)) →
        ∀ s, J hs s → Leads ends (J []) (p.deliver event hs s)
  | [], _, s, hJ => hJ
  | h :: rest, hcall, s, hJ => by
    have hrest := leads_deliver hnote rest fun h' hm => hcall h' (List.mem_cons_of_mem h hm)
    have hcalled := hcall h List.mem_cons_self rest s hJ
    rw [Program.deliver]
    cases hc : p.call h s with
    | none =>
      rw [hc] at hcalled
      exact hcalled
    | some r =>
      obtain ⟨ended, s'⟩ := r
      rw [hc] at hcalled
      cases ended with
      | true => exact hrest s' hcalled
      | false => exact hrest _ (hnote _ rest s' hcalled)

/-- **An event is told to all its handlers.** What is said of the handlers still to come holds at
first of all handlers of the event, and at last of none. -/
theorem leads_emit_each {J : List H → σ → Prop} {b : Bus H}
    (hnote : ∀ entry hs s, J hs s → J hs (p.note entry s))
    (hcall : ∀ h ∈ b.handlers event, ∀ rest s, J (h :: rest) s →
      Leads ends (fun r => J rest r.2) (p.call h s)) {s : σ} (hJ : J (b.handlers event) s) :
    Leads ends (J []) (b.emit p event s) := by
  unfold emit
  split
  · rename_i hnone
    rw [hnone] at hJ
    exact hJ
  · exact leads_deliver hnote _ hcall _ (hnote _ _ s hJ)

/-! ## Deliveries handler by handler -/

/-- What a handler leaves: when it has failed, that is reported. -/
def Program.settle (p : Program H σ) (event : Text) (h : H) : Bool × σ → σ
  | (true, s) => s
  | (false, s) => p.note (.handlerFailed (p.name h) event) s

/-- One handler after the other: the next one is called whatever has come of the first. -/
lemma Program.deliver_cons (p : Program H σ) (event : Text) (h : H) (rest : List H) (s : σ) :
    p.deliver event (h :: rest) s =
      (p.call h s).bind fun r => p.deliver event rest (p.settle event h r) := by
  rw [deliver]
  cases p.call h s with
  | none => rfl
  | some r =>
    obtain ⟨ended, s'⟩ := r
    cases ended <;> rfl

/-- An event is delivered to its handlers, after an entry in the log if there are any. -/
lemma emit_eq_deliver (b : Bus H) (p : Program H σ) (event : Text) (s : σ) :
    ∃ s₁, (s₁ = s ∨ ∃ entry, s₁ = p.note entry s) ∧
      b.emit p event s = p.deliver event (b.handlers event) s₁ := by
  unfold emit
  split
  · rename_i hnone
    exact ⟨s, .inl rfl, by rw [hnone, Program.deliver]⟩
  · exact ⟨_, .inr ⟨_, rfl⟩, rfl⟩

/-- A delivery that ends: the handlers with the states in which they are called, and the state
that is left. -/
inductive Program.Delivers (p : Program H σ) (event : Text) : List H → σ → List (H × σ) → σ → Prop
  | nil {s : σ} : p.Delivers event [] s [] s
  | cons {h : H} {rest : List H} {s s' : σ} {r : Bool × σ} {seen : List (H × σ)}
      (hcall : p.call h s = some r) (hrest : p.Delivers event rest (p.settle event h r) seen s') :
      p.Delivers event (h :: rest) s ((h, s) :: seen) s'

namespace Program.Delivers

variable {hs : List H} {s s' : σ} {seen : List (H × σ)}

/-- What is delivered is a delivery. -/
lemma of_deliver : ∀ {hs : List H} {s : σ}, p.deliver event hs s = some s' →
    ∃ seen, p.Delivers event hs s seen s'
  | [], _, h => by
    cases h
    exact ⟨[], .nil⟩
  | _ :: _, _, h => by
    rw [deliver_cons] at h
    obtain ⟨r, hcall, hdeliver⟩ := Option.bind_eq_some_iff.mp h
    obtain ⟨seen, hrest⟩ := of_deliver hdeliver
    exact ⟨_, .cons hcall hrest⟩

/-- The handlers are called in order, and each once. -/
lemma map_fst (h : p.Delivers event hs s seen s') : seen.map Prod.fst = hs := by
  induction h with
  | nil => rfl
  | cons _ _ ih => rw [List.map_cons, ih]

/-- What all handlers keep holds when any of them is called. -/
lemma forall_seen {I : σ → Prop} (hnote : ∀ entry s, I s → I (p.note entry s))
    (hcall : ∀ h ∈ hs, ∀ s r, I s → p.call h s = some r → I r.2)
    (h : p.Delivers event hs s seen s') (hI : I s) : ∀ x ∈ seen, I x.2 := by
  induction h with
  | nil => exact List.forall_mem_nil _
  | @cons h rest s s' r seen hcalled _ ih =>
    have hleft : I (p.settle event h r) := by
      have hr := hcall h List.mem_cons_self s r hI hcalled
      obtain ⟨ended, s₁⟩ := r
      cases ended with
      | true => exact hr
      | false => exact hnote _ _ hr
    refine List.forall_mem_cons.mpr ⟨hI, ih (fun h' hh' => ?_) hleft⟩
    exact hcall h' (List.mem_cons_of_mem h hh')

end Program.Delivers

/-- **An event that ends is a delivery to its handlers.** -/
theorem exists_delivers_emit {b : Bus H} {s s' : σ} (h : b.emit p event s = some s') :
    ∃ s₁ seen, (s₁ = s ∨ ∃ entry, s₁ = p.note entry s) ∧
      p.Delivers event (b.handlers event) s₁ seen s' := by
  obtain ⟨s₁, hs₁, hdeliver⟩ := b.emit_eq_deliver p event s
  obtain ⟨seen, hdelivers⟩ := Program.Delivers.of_deliver (hdeliver.symm.trans h)
  exact ⟨s₁, seen, hs₁, hdelivers⟩

end Bus

end Shorthand
