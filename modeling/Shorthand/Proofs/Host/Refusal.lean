import Mathlib.Tactic.SplitIfs
import Shorthand.Proofs.Host.Turns

set_option autoImplicit false
set_option relaxedAutoImplicit false

/-!
# Refused calls

Where an edit stands when a call is refused is where it was at that call, for the call itself does
nothing. So an edit is described by its calls, each with the document that it finds; what becomes
of the edit on any host can be read off them, whichever call that host refuses.

## Main definitions

* `Shorthand.Host.meet` — whether a refusal strikes one of some calls.
* `Shorthand.Edit.Makes` — the calls of an edit, with the documents that they find.
* `Shorthand.Edit.Reads` — an edit whose calls all find the same document.
* `Shorthand.Edit.Passes` — the documents that an edit passes through.

## Main results

* `Shorthand.Edit.Makes.bind`, `Shorthand.Edit.Passes.bind` — one edit after the other.
* `Shorthand.Edit.Makes.turns` — on a host that refuses nothing all calls are made.
* `Shorthand.Edit.Passes.of_refused`, `Shorthand.Edit.Passes.exists_refused` — an edit that is
  refused leaves one of the documents that it passes through, and each of them is left by some
  refusal.
-/

namespace Shorthand

namespace Host

/-- A refusal and the calls that are made, each with the document that it finds: the document of
the call that is refused, or what there is still to refuse after them all. -/
def meet : Option Refusal → List (Method × Document) → Except Document (Option Refusal)
  | r, [] => .ok r
  | none, _ => .ok none
  | some r, (m, d) :: rest =>
    if r.method = m then
      match r.skip with
      | 0 => .error d
      | n + 1 => meet (some { r with skip := n }) rest
    else meet (some r) rest

/-- Where there is nothing to refuse, no call is refused. -/
@[simp] lemma meet_none (calls : List (Method × Document)) : meet none calls = .ok none := by
  cases calls <;> rfl

/-- Calls after calls: what the first ones leave of the refusal the others meet. -/
lemma meet_append (r : Option Refusal) (calls more : List (Method × Document)) :
    meet r (calls ++ more) = (meet r calls).bind fun r => meet r more := by
  induction calls generalizing r with
  | nil => cases r <;> rfl
  | cons call rest ih =>
    obtain ⟨m, d⟩ := call
    cases r with
    | none => rw [meet_none, meet_none, Except.bind, meet_none]
    | some r =>
      rw [List.cons_append, meet, meet]
      split_ifs
      · cases r.skip with
        | zero => rfl
        | succ n => exact ih _
      · exact ih _

/-- The call that is refused is one of them. -/
lemma mem_of_meet {r : Option Refusal} {calls : List (Method × Document)} {d : Document}
    (h : meet r calls = .error d) : d ∈ calls.map Prod.snd := by
  induction calls generalizing r with
  | nil => cases r <;> exact nomatch h
  | cons call rest ih =>
    obtain ⟨m, d'⟩ := call
    cases r with
    | none => exact nomatch h
    | some r =>
      rw [meet] at h
      split_ifs at h
      · cases hskip : r.skip with
        | zero =>
          rw [hskip] at h
          cases h
          exact List.mem_cons_self
        | succ n =>
          rw [hskip] at h
          exact List.mem_cons_of_mem _ (ih h)
      · exact List.mem_cons_of_mem _ (ih h)

/-- Each of them is refused by some refusal: one that passes over the calls of the same method
before it. -/
lemma exists_meet {calls : List (Method × Document)} {d : Document} (h : d ∈ calls.map Prod.snd) :
    ∃ r, meet (some r) calls = .error d := by
  induction calls with
  | nil => exact nomatch h
  | cons call rest ih =>
    obtain ⟨m, d'⟩ := call
    rcases List.mem_cons.mp h with rfl | h
    · refine ⟨⟨m, 0⟩, ?_⟩
      rw [meet, if_pos rfl]
    · obtain ⟨⟨method, skip⟩, hr⟩ := ih h
      by_cases hm : method = m
      · refine ⟨⟨method, skip + 1⟩, ?_⟩
        rw [meet, if_pos hm]
        exact hr
      · refine ⟨⟨method, skip⟩, ?_⟩
        rw [meet, if_neg hm]
        exact hr

end Host

namespace Edit

open Host

variable {α β : Type} {e : Edit α} {f : α → Edit β} {a : α} {b : β} {d d₁ d₂ d' : Document}
variable {calls more : List (Method × Document)} {stages stages' : List Document}

/-! ## The calls of an edit -/

/-- **The calls of an edit** on a document `d`, each with the document that it finds. Whatever the
host refuses, the edit ends with `a` and leaves `d'` if none of them is refused, and else it
leaves the document of the one that is. -/
structure Makes (e : Edit α) (d : Document) (calls : List (Method × Document)) (a : α)
    (d' : Document) : Prop where
  ends : ∀ (h : Host) (r : Option Refusal), h.document = d → meet h.refusal calls = .ok r →
    ∃ h', e h = .ok a h' ∧ h'.document = d' ∧ h'.refusal = r
  stops : ∀ (h : Host) (d₁ : Document), h.document = d → meet h.refusal calls = .error d₁ →
    ∃ h', e h = .error .refused h' ∧ h'.document = d₁

/-- What does nothing makes no call. -/
lemma makes_pure (d : Document) (a : α) : Makes (pure a) d [] a d := by
  refine ⟨fun h r hd hr => ?_, fun h d₁ _ hr => ?_⟩
  · cases hr
    exact ⟨h, rfl, hd, rfl⟩
  · exact nomatch hr

/-- **One edit after the other:** the second makes its calls when those of the first are done. -/
theorem Makes.bind (he : e.Makes d calls a d₁) (hf : (f a).Makes d₁ more b d₂) :
    Makes (e >>= f) d (calls ++ more) b d₂ := by
  have hrun (h : Host) : (e >>= f) h = EStateM.bind e f h := rfl
  refine ⟨fun h r hd hr => ?_, fun h d' hd hr => ?_⟩
  · rw [meet_append] at hr
    cases hfirst : meet h.refusal calls with
    | error _ =>
      rw [hfirst] at hr
      exact nomatch hr
    | ok r₁ =>
      rw [hfirst] at hr
      obtain ⟨h₁, hok, hd₁, hr₁⟩ := he.ends h r₁ hd hfirst
      rw [hrun, EStateM.bind, hok]
      exact hf.ends h₁ r hd₁ (hr₁ ▸ hr)
  · rw [meet_append] at hr
    cases hfirst : meet h.refusal calls with
    | error d₁ =>
      rw [hfirst] at hr
      cases hr
      obtain ⟨h', herror, hd'⟩ := he.stops h d' hd hfirst
      refine ⟨h', ?_, hd'⟩
      rw [hrun, EStateM.bind, herror]
    | ok r₁ =>
      rw [hfirst] at hr
      obtain ⟨h₁, hok, hd₁, hr₁⟩ := he.ends h r₁ hd hfirst
      rw [hrun, EStateM.bind, hok]
      exact hf.stops h₁ d' hd₁ (hr₁ ▸ hr)

/-- **On a host that refuses nothing** all calls are made. -/
theorem Makes.turns (he : e.Makes d calls a d') : e.Turns d a d' := by
  rintro h ⟨hd, hr⟩
  obtain ⟨h', hok, hd', hr'⟩ := he.ends h none hd (by rw [hr, meet_none])
  exact ⟨h', hok, hd', hr'⟩

/-- An edit that ends in one way ends in no other. -/
lemma Makes.eq_of_turns {a' : α} {d₁ : Document} (he : e.Makes d calls a d₁)
    (ht : e.Turns d a' d') :
    a = a' ∧ d₁ = d' := by
  obtain ⟨h, hok, hh⟩ := he.turns { document := d } ⟨rfl, rfl⟩
  obtain ⟨h', hok', hh'⟩ := ht { document := d } ⟨rfl, rfl⟩
  cases hok.symm.trans hok'
  exact ⟨rfl, hh.document.symm.trans hh'.document⟩

end Edit

/-! ## The calls of each call -/

namespace Host

open Edit

/-- A call counts: the refusal strikes it, or is left as it is after the call. -/
lemma attempt_eq (m : Method) (h : Host) :
    attempt m h = match meet h.refusal [(m, h.document)] with
      | .ok r => .ok () { h with refusal := r }
      | .error _ => .error .refused { h with refusal := none } := by
  obtain ⟨d, refusal, calls, log⟩ := h
  cases refusal with
  | none => rfl
  | some r =>
    obtain ⟨method, skip⟩ := r
    by_cases hm : method = m
    · cases skip <;> simp only [attempt, meet, if_pos hm]
    · simp only [attempt, meet, if_neg hm]

/-- Counting a call is that call, and changes nothing. -/
lemma makes_attempt (d : Document) (m : Method) : (attempt m).Makes d [(m, d)] () d := by
  refine ⟨fun h r hd hr => ?_, fun h d₁ hd hr => ?_⟩
  · subst hd
    rw [attempt_eq, hr]
    exact ⟨_, rfl, rfl, rfl⟩
  · subst hd
    rw [attempt_eq, hr]
    exact ⟨_, rfl, List.mem_singleton.mp (mem_of_meet hr) ▸ rfl⟩

/-- What asks the host for nothing makes no call. -/
private lemma makes_of_forall {α : Type} {e : Edit α} {d d' : Document} {a : α}
    (he : ∀ h : Host, h.document = d →
      ∃ h', e h = .ok a h' ∧ h'.document = d' ∧ h'.refusal = h.refusal) : e.Makes d [] a d' := by
  refine ⟨fun h r hd hr => ?_, fun h d₁ _ hr => ?_⟩
  · cases hr
    exact he h hd
  · exact nomatch hr

/-- Keeping a call for the record asks the host for nothing. -/
lemma makes_keep (d : Document) (c : Call) : (keep c).Makes d [] () d :=
  makes_of_forall fun _ hd => ⟨_, rfl, hd, rfl⟩

/-- Nor does an entry in the log. -/
lemma makes_note (d : Document) (entry : Log.Entry) : (note entry).Makes d [] () d :=
  makes_of_forall fun _ hd => ⟨_, rfl, hd, rfl⟩

/-- A look at the document is part of a call, and none by itself. -/
lemma makes_look (d : Document) : look.Makes d [] d d :=
  makes_of_forall fun h hd => ⟨h, by rw [← hd]; rfl, hd, rfl⟩

/-- So is a change of it. -/
lemma makes_change (d : Document) (f : Document → Document) : (change f).Makes d [] () (f d) :=
  makes_of_forall fun _ hd => ⟨_, rfl, by rw [hd], rfl⟩

/-- A call that reads is one call. -/
lemma makes_read {α : Type} (m : Method) (f : Document → α) (d : Document) :
    Makes (do attempt m; return f (← look)) d [(m, d)] (f d) d :=
  (makes_attempt d m).bind ((makes_look d).bind (makes_pure d (f d)))

/-- So is one that changes the document. -/
lemma makes_write (c : Call) (m : Method) (f : Document → Document) (d : Document) :
    Makes (do keep c; attempt m; change f) d [(m, d)] () (f d) :=
  (makes_keep d c).bind ((makes_attempt d m).bind (makes_change d f))

/-- Asking for the cursor is one call. -/
lemma makes_getCursor (d : Document) : getCursor.Makes d [(.getCursor, d)] d.cursor d :=
  makes_read .getCursor (fun d => (d.cursor : Int)) d

/-- Moving the cursor is one call. -/
lemma makes_setCursor (d : Document) (offset : Int) :
    (setCursor offset).Makes d [(.setCursor, d)] () (d.setCursor offset) := makes_write _ _ _ d

/-- A replacement is one call. -/
lemma makes_replaceRange (d : Document) (start stop : Int) (s : Text) :
    (replaceRange start stop s).Makes d [(.replaceRange, d)] () (d.replaceRange start stop s) :=
  makes_write _ _ _ d

/-- An indentation is the call itself and the replacement within it, which both find the same
document. -/
lemma makes_indent (d : Document) :
    indent.Makes d [(.indent, d), (.replaceRange, d)] () d.indent := by
  refine (makes_keep d _).bind ((makes_attempt d _).bind ((makes_look d).bind ?_))
  exact makes_replaceRange d _ _ _

end Host

namespace Edit

open Host

variable {α β : Type} {e : Edit α} {f : α → Edit β} {a : α} {b : β} {d d₁ d₂ d' : Document}
variable {stages stages' : List Document}

/-! ## Edits that read -/

/-- **An edit that only reads:** its calls all find the same document, which it leaves as it was. -/
def Reads (e : Edit α) (d : Document) : Prop :=
  ∃ calls a, e.Makes d calls a d ∧ ∀ c ∈ calls, c.2 = d

/-- What does nothing reads. -/
lemma reads_pure (d : Document) (a : α) : Reads (pure a) d :=
  ⟨[], a, makes_pure d a, List.forall_mem_nil _⟩

/-- A call that reads does nothing else. -/
lemma reads_read (m : Method) (f : Document → α) (d : Document) :
    Reads (do attempt m; return f (← look)) d :=
  ⟨_, _, makes_read m f d, List.forall_mem_singleton.mpr rfl⟩

/-- **One edit that reads after the other.** -/
theorem Reads.bind (he : e.Reads d) (hf : ∀ a, (f a).Reads d) : Reads (e >>= f) d := by
  obtain ⟨calls, a, hmakes, hcalls⟩ := he
  obtain ⟨more, b, hmakes', hmore⟩ := hf a
  exact ⟨calls ++ more, b, hmakes.bind hmakes', List.forall_mem_append.mpr ⟨hcalls, hmore⟩⟩

/-- What it reads is its result on a host that refuses nothing. -/
lemma Reads.makes (he : e.Reads d) (ht : e.Turns d a d') :
    ∃ calls, e.Makes d calls a d ∧ ∀ c ∈ calls, c.2 = d := by
  obtain ⟨calls, a', hmakes, hcalls⟩ := he
  obtain ⟨rfl, -⟩ := hmakes.eq_of_turns ht
  exact ⟨calls, hmakes, hcalls⟩

/-- The document of a call that finds the document that all calls find. -/
lemma eq_of_mem_found {calls : List (Method × Document)} {x : Document}
    (hcalls : ∀ c ∈ calls, c.2 = d) (hx : x ∈ calls.map Prod.snd) : x = d := by
  obtain ⟨c, hc, rfl⟩ := List.mem_map.mp hx
  exact hcalls c hc

/-! ## The documents that an edit passes through -/

/-- **The documents that an edit passes through:** those that its calls find. -/
def Passes (e : Edit α) (d : Document) (stages : List Document) (a : α) (d' : Document) : Prop :=
  ∃ calls, e.Makes d calls a d' ∧ ∀ x, x ∈ calls.map Prod.snd ↔ x ∈ stages

/-- The order in which it passes through them does not matter. -/
lemma Passes.of_mem_iff (h : e.Passes d stages a d') (hstages : ∀ x, x ∈ stages ↔ x ∈ stages') :
    e.Passes d stages' a d' := by
  obtain ⟨calls, hmakes, hcalls⟩ := h
  exact ⟨calls, hmakes, fun x => (hcalls x).trans (hstages x)⟩

/-- The calls that an edit makes are all at the documents that it passes through. -/
lemma Makes.passes {calls : List (Method × Document)} (h : e.Makes d calls a d') :
    e.Passes d (calls.map Prod.snd) a d' := ⟨calls, h, fun _ => Iff.rfl⟩

/-- What does nothing passes through no document. -/
lemma passes_pure (d : Document) (a : α) : Passes (pure a) d [] a d := (makes_pure d a).passes

/-- **One edit after the other:** the documents of the one and those of the other. -/
theorem Passes.bind (he : e.Passes d stages a d₁) (hf : (f a).Passes d₁ stages' b d₂) :
    Passes (e >>= f) d (stages ++ stages') b d₂ := by
  obtain ⟨calls, hmakes, hcalls⟩ := he
  obtain ⟨more, hmakes', hmore⟩ := hf
  refine ⟨calls ++ more, hmakes.bind hmakes', fun x => ?_⟩
  rw [List.map_append, List.mem_append, List.mem_append, hcalls, hmore]

/-- An edit that reads adds no document before one that passes through the document that it
reads. -/
lemma Passes.reads_bind (he : e.Reads d) (hturns : e.Turns d a d) (hf : (f a).Passes d stages b d')
    (hmem : d ∈ stages) : Passes (e >>= f) d stages b d' := by
  obtain ⟨calls, hmakes, hcalls⟩ := he.makes hturns
  refine (hmakes.passes.bind hf).of_mem_iff fun x => ?_
  exact List.mem_append.trans (or_iff_right_of_imp fun hx => eq_of_mem_found hcalls hx ▸ hmem)

/-- Nor does it after one that has passed through that document. -/
lemma Passes.bind_reads (he : e.Passes d stages a d₁) (hmem : d₁ ∈ stages) (hf : (f a).Reads d₁)
    (hturns : (f a).Turns d₁ b d₁) : Passes (e >>= f) d stages b d₁ := by
  obtain ⟨calls, hmakes, hcalls⟩ := hf.makes hturns
  refine (he.bind hmakes.passes).of_mem_iff fun x => ?_
  exact List.mem_append.trans (or_iff_left_of_imp fun hx => eq_of_mem_found hcalls hx ▸ hmem)

/-- **An edit that is refused leaves one of the documents that it passes through.** -/
theorem Passes.of_refused (he : e.Passes d stages a d') {h : Host} (hd : h.document = d) :
    (∃ h', e h = .ok a h') ∨ ∃ h', e h = .error .refused h' ∧ h'.document ∈ stages := by
  obtain ⟨calls, hmakes, hcalls⟩ := he
  cases hmeet : meet h.refusal calls with
  | ok r =>
    obtain ⟨h', hok, -⟩ := hmakes.ends h r hd hmeet
    exact .inl ⟨h', hok⟩
  | error d₁ =>
    obtain ⟨h', herror, rfl⟩ := hmakes.stops h d₁ hd hmeet
    exact .inr ⟨h', herror, (hcalls _).mp (mem_of_meet hmeet)⟩

/-- **Each of these documents is left by some refusal,** of whatever host. -/
theorem Passes.exists_refused (he : e.Passes d stages a d') {x : Document} (hx : x ∈ stages) :
    ∃ r, ∀ h : Host, h.document = d → h.refusal = some r →
      ∃ h', e h = .error .refused h' ∧ h'.document = x := by
  obtain ⟨calls, hmakes, hcalls⟩ := he
  obtain ⟨r, hmeet⟩ := exists_meet ((hcalls x).mpr hx)
  exact ⟨r, fun h hd hr => hmakes.stops h x hd (hr ▸ hmeet)⟩

end Edit

namespace Host

open Edit

/-- Asking for the cursor finds the document. -/
lemma passes_getCursor (d : Document) : getCursor.Passes d [d] d.cursor d :=
  (makes_getCursor d).passes

/-- Moving the cursor finds the document as it was. -/
lemma passes_setCursor (d : Document) (offset : Int) :
    (setCursor offset).Passes d [d] () (d.setCursor offset) := (makes_setCursor d offset).passes

/-- So does a replacement. -/
lemma passes_replaceRange (d : Document) (start stop : Int) (s : Text) :
    (replaceRange start stop s).Passes d [d] () (d.replaceRange start stop s) :=
  (makes_replaceRange d start stop s).passes

/-- The call and the replacement within it find the same document. -/
lemma passes_indent (d : Document) : indent.Passes d [d] () d.indent :=
  (makes_indent d).passes.of_mem_iff fun x => by simp

/-- An indentation that is not there is not replaced. -/
lemma passes_unindent (d : Document) : unindent.Passes d [d] () d.unindent := by
  obtain ⟨calls, hall, hcalls⟩ : ∃ calls, unindent.Makes d ((.unindent, d) :: calls) () d.unindent ∧
      ∀ c ∈ calls, c.2 = d := by
    unfold Document.unindent
    cases hstart : d.indentStart? with
    | none =>
      refine ⟨[], (makes_keep d _).bind ((makes_attempt d _).bind ((makes_look d).bind ?_)),
        List.forall_mem_nil _⟩
      rw [hstart]
      exact makes_pure d ()
    | some start =>
      refine ⟨[(.replaceRange, d)], (makes_keep d _).bind
        ((makes_attempt d _).bind ((makes_look d).bind ?_)), List.forall_mem_singleton.mpr rfl⟩
      rw [hstart]
      exact makes_replaceRange d _ _ _
  refine hall.passes.of_mem_iff fun x => ?_
  rw [List.map_cons, List.mem_cons, List.mem_singleton]
  exact or_iff_left_of_imp (eq_of_mem_found hcalls)

end Host

end Shorthand
