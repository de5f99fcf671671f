import KeepApart.Proofs.Atomicity
import KeepApart.Proofs.Carried

/-!
# Where comments come from

Creating and amending a record refuse a blank comment. Reopening one makes a comment of its reason, and
a legacy request brings its own; both only ask for a text that is not empty. So a blank comment tells
that a reopening or a legacy request gave it.
-/

namespace KeepApart

open KeepApart.Register

def Json.IsSpoken (v : Json) : Prop := ∃ text, v = .str text ∧ Text.isBlankText text = false

/-- The text that the edit takes for a comment without asking whether it is blank. -/
def Edit.unchecked : Edit → Option String
  | reopen _ _ reason _ _ _ => reason
  | upsert _ _ _ q | migrate _ _ q => q.comment
  | _ => none

/-! ## Rules -/

theorem given?_eq_some {s : Option String} {text : String} :
    given? s = some text ↔ s = some text ∧ text ≠ "" := by
  cases s with
  | none => exact ⟨nofun, nofun⟩
  | some t =>
      by_cases ht : t = ""
      · subst ht
        constructor
        · rintro ⟨⟩
        · rintro ⟨⟨⟩, hne⟩
          exact absurd rfl hne
      · have hempty : t.isEmpty = false := Bool.eq_false_iff.2 (mt String.isEmpty_iff.1 ht)
        rw [given?, Option.bind_some, hempty, if_neg Bool.false_ne_true]
        constructor
        · rintro ⟨⟩
          exact ⟨rfl, ht⟩
        · exact And.left

namespace Record

variable {e r : Record}

theorem comment_of_amend {name : String} {at' : Moment} {a : Amendment}
    (h : e.amend name at' a = .ok r) :
    Text.isBlankText r.comment = false ∨ r.comment = e.comment := by
  have hcomment : r.comment = a.comment.getD e.comment := by
    rw [eq_of_amend h]
    rfl
  have hspoken : a.comment.any Text.isBlankText = false := by
    unfold amend at h
    split at h
    · cases h
    · split at h
      · cases h
      · split at h
        · cases h
        · split at h
          · cases h
          · rename_i hspoken
            exact Bool.eq_false_iff.2 hspoken
  rw [hcomment]
  cases ha : a.comment with
  | none => exact .inr rfl
  | some text =>
      rw [ha] at hspoken
      exact .inl hspoken

theorem comment_of_reopen {at' : Moment} {reopener reason : String}
    (h : e.reopen at' reopener reason = .ok r) : r.comment = reason ∧ reason ≠ "" := by
  have hcomment : r.comment = reason := by rw [eq_of_reopen h]
  refine ⟨hcomment, ?_⟩
  rintro rfl
  have hempty : (reopener.isEmpty || "".isEmpty) = true := Bool.or_true _
  rw [reopen, if_pos hempty] at h
  cases h

end Record

/-- A draft that has the comment of a legacy request, or else a default that is not blank. -/
theorem Draft.HeldAs.comment_cases {d : Draft} {r : Record} {comment : Option String}
    {default : Json} (hr : d.HeldAs r) (hd : d.comment = LegacyRequest.textOr comment default)
    (hdefault : default.IsSpoken) :
    Text.isBlankText r.comment = false ∨ r.comment ≠ "" ∧ comment = some r.comment := by
  have hheld := hr.comment
  rw [hd, LegacyRequest.textOr] at hheld
  cases hgiven : given? comment with
  | none =>
      obtain ⟨text, rfl, hspoken⟩ := hdefault
      rw [hgiven] at hheld
      obtain rfl : text = r.comment := Option.some.inj (Except.ok.inj hheld)
      exact .inl hspoken
  | some text =>
      rw [hgiven] at hheld
      obtain rfl : text = r.comment := Option.some.inj (Except.ok.inj hheld)
      obtain ⟨hcomment, hne⟩ := given?_eq_some.1 hgiven
      exact .inr ⟨hne, hcomment⟩

/-! ## Edits and histories -/

/-- The comment of a record that an edit makes is not blank, or it is that of a stored record, or the
edit took it unchecked. -/
theorem Edit.comment_of_makes {c : Edit} {g : Register} {r : Record} (hg : g.IsTable)
    (hdefaults : c.HasDefaults Json.IsSpoken) (hr : c.Makes g r) :
    Text.isBlankText r.comment = false ∨ (∃ e ∈ g.records, r.comment = e.comment) ∨
      r.comment ≠ "" ∧ c.unchecked = some r.comment := by
  have hfound {id : Int} {e : Record} (he : g.find? id = some e) : e ∈ g.records :=
    (hg.find?_eq_some_iff.1 he).1
  cases hr with
  | create _ spoken _ _ made =>
      obtain ⟨_, _, _, _, rfl⟩ := Proposal.eq_of_record made
      exact .inl spoken
  | amend _ stored made =>
      rcases Record.comment_of_amend made with hspoken | hsame
      · exact .inl hspoken
      · exact .inr (.inl ⟨_, hfound stored, hsame⟩)
  | close _ stored _ made =>
      obtain ⟨_, _, _, -, rfl⟩ := Record.eq_of_close made
      exact .inr (.inl ⟨_, hfound stored, rfl⟩)
  | @reopen _ _ reason _ _ _ _ _ _ _ _ _ _ made =>
      obtain ⟨hcomment, hne⟩ := Record.comment_of_reopen made
      cases reason with
      | none => exact absurd rfl hne
      | some text =>
          refine .inr (.inr ⟨?_, congrArg some hcomment.symm⟩)
          rw [hcomment]
          exact hne
  | insert _ drafted _ held =>
      obtain ⟨-, _, _, _, -, rfl⟩ := LegacyRequest.eq_of_draft drafted
      exact (held.comment_cases rfl hdefaults.noComment).imp_right .inr
  | overwrite _ _ drafted _ held =>
      obtain ⟨-, _, _, _, -, rfl⟩ := LegacyRequest.eq_of_draft drafted
      exact (held.comment_cases rfl hdefaults.noComment).imp_right .inr
  | migrate drafted _ held =>
      obtain ⟨-, _, _, _, -, rfl⟩ := LegacyRequest.eq_of_draft drafted
      exact (held.comment_cases rfl hdefaults.migratedNoComment).imp_right .inr

/-- As long as the defaults for missing comments are not blank, a stored record has a blank comment only
where a reopening or a legacy request gave it, and even then the comment is not empty. -/
theorem blank_comments_were_given (steps : List Step)
    (hdefaults : ∀ c, .edit c ∈ steps → c.HasDefaults Json.IsSpoken) :
    ∀ r ∈ (reached steps).records, Text.isBlankText r.comment = true →
      r.comment ≠ "" ∧ ∃ c, .edit c ∈ steps ∧ c.unchecked = some r.comment := by
  refine all_reached (fun _ _ hr => hr) (fun _ _ _ hr => hr) steps ?_
  intro c hc g hg hall r hr hblank
  rcases Edit.comment_of_makes hg (hdefaults c hc) hr with hspoken | ⟨e, he, hsame⟩ | ⟨hne, hgiven⟩
  · rw [hspoken] at hblank
    cases hblank
  · rw [hsame] at hblank ⊢
    exact hall e he hblank
  · exact ⟨hne, c, hc, hgiven⟩

/-- A record that was closed is reopened for a reason that is a space. -/
theorem blank_comments_were_given_reopened :
    ∃ (steps : List Step) (r : Record),
      (∀ c, .edit c ∈ steps → c.HasDefaults Json.IsSpoken) ∧ r ∈ (reached steps).records ∧
        Text.isBlankText r.comment = true ∧
        ∃ c, .edit c ∈ steps ∧ c.unchecked = some r.comment := by
  let ctx : Context := ⟨Moment.earliest, none⟩
  let steps : List Step := [
    .plain {} "A1" "B2" none,
    .edit (.close ctx 1 (some "Moved") (some "USER") none none),
    .edit (.reopen ctx 1 (some " ") (some "USER") none none)]
  have hdefaults : ∀ c, .edit c ∈ steps → c.HasDefaults Json.IsSpoken := by
    intro c hc
    simp only [steps, Step.plain, List.mem_cons, Step.edit.injEq, List.not_mem_nil, or_false] at hc
    rcases hc with rfl | rfl | rfl
    · exact ⟨⟨_, rfl, by decide⟩, ⟨_, rfl, by decide⟩, ⟨_, rfl, by decide⟩, ⟨_, rfl, by decide⟩,
        ⟨_, rfl, by decide⟩⟩
    · trivial
    · trivial
  obtain ⟨r, hr, hcomment⟩ : ∃ r ∈ (reached steps).records, r.comment = " " := by decide +kernel
  have hblank : Text.isBlankText r.comment = true := by
    rw [hcomment]
    decide
  exact ⟨steps, r, hdefaults, hr, hblank, (blank_comments_were_given steps hdefaults r hr hblank).2⟩

end KeepApart
