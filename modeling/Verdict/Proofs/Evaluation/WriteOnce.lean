import Verdict.Evaluation.Registry
import Verdict.Proofs.Text.Bytes
import Verdict.Rule.Limits

set_option autoImplicit false

namespace Verdict

variable {σ : Type}

namespace Registry

section Entries

variable {entries : List (String × RuleFunction σ)} {name : String}

theorem lookup_cons_eq (k other : String) (g : RuleFunction σ) :
    ((k, g) :: entries).lookup other = if other = k then some g else entries.lookup other := by
  by_cases same : other = k
  · simp [same]
  · simp [List.lookup_cons, same, beq_false_of_ne same]

theorem lookup_cons_eq_none {k other : String} {g : RuleFunction σ} :
    ((k, g) :: entries).lookup other = none ↔ other ≠ k ∧ entries.lookup other = none := by
  rw [lookup_cons_eq]
  by_cases same : other = k <;> simp [same]

theorem lookup_insertEntry (f : RuleFunction σ) (fresh : entries.lookup name = none) (other : String) :
    (insertEntry name f entries).lookup other =
      if other = name then some f else entries.lookup other := by
  induction entries with
  | nil => exact lookup_cons_eq name other f
  | cons entry rest ih =>
    obtain ⟨k, g⟩ := entry
    obtain ⟨apart, later⟩ := lookup_cons_eq_none.mp fresh
    rw [insertEntry]
    split
    · exact lookup_cons_eq name other f
    · rw [lookup_cons_eq, lookup_cons_eq, ih later]
      by_cases here : other = k
      · simp [here, apart.symm]
      · simp [here]

theorem mem_insertEntry {f : RuleFunction σ} {entry : String × RuleFunction σ} :
    entry ∈ insertEntry name f entries ↔ entry = (name, f) ∨ entry ∈ entries := by
  induction entries with
  | nil => simp [insertEntry]
  | cons head rest ih =>
    rw [insertEntry]
    split
    · exact List.mem_cons
    · rw [List.mem_cons, List.mem_cons, ih]
      exact or_left_comm

theorem lookup_isSome_iff_mem : (entries.lookup name).isSome ↔ name ∈ entries.map Prod.fst := by
  induction entries with
  | nil => simp
  | cons entry rest ih =>
    obtain ⟨k, g⟩ := entry
    rw [lookup_cons_eq]
    by_cases same : name = k <;> simp [same, ih]

theorem insertEntry_ascending (f : RuleFunction σ) (fresh : entries.lookup name = none)
    (ascending : (entries.map Prod.fst).Pairwise (· < ·)) :
    ((insertEntry name f entries).map Prod.fst).Pairwise (· < ·) := by
  induction entries with
  | nil => simp [insertEntry]
  | cons entry rest ih =>
    obtain ⟨k, g⟩ := entry
    obtain ⟨above, others⟩ := List.pairwise_cons.mp ascending
    obtain ⟨apart, later⟩ := lookup_cons_eq_none.mp fresh
    rw [insertEntry]
    split
    · next first =>
      refine List.pairwise_cons.mpr ⟨fun other mem => ?_, ascending⟩
      rcases List.mem_cons.mp mem with rfl | mem
      · exact first
      · exact String.lt_trans first (above other mem)
    · next behind =>
      refine List.pairwise_cons.mpr ⟨fun other mem => ?_, ih later others⟩
      obtain ⟨m, inserted, rfl⟩ := List.mem_map.mp mem
      rcases mem_insertEntry.mp inserted with rfl | old
      · exact lt_of_le_of_ne (not_lt.mp behind) apart.symm
      · exact above m.1 (List.mem_map_of_mem old)

end Entries

variable {r after : Registry σ} {name : String} {f : RuleFunction σ}

def Ascending (r : Registry σ) : Prop := r.names.Pairwise (· < ·)

theorem empty_ascending : (empty : Registry σ).Ascending := .nil

theorem standard_ascending : (standard : Registry σ).Ascending := by
  simp only [Ascending, names, standard, List.map_cons, List.map_nil, List.pairwise_cons,
    List.mem_singleton, List.not_mem_nil, forall_eq, false_imp_iff, implies_true, List.Pairwise.nil,
    and_true]
  decide

theorem register?_of_contains (taken : r.contains name = true) : r.register? name f = none :=
  if_pos taken

theorem register?_of_not_contains (free : r.contains name = false) :
    r.register? name f = some ⟨insertEntry name f r.entries⟩ :=
  if_neg (by simp [free])

theorem get?_eq_none_of_register? (done : r.register? name f = some after) : r.get? name = none := by
  by_cases taken : r.contains name
  · rw [register?_of_contains taken] at done
    cases done
  · simpa [contains] using taken

theorem get?_of_register? (done : r.register? name f = some after) (other : String) :
    after.get? other = if other = name then some f else r.get? other := by
  have fresh := get?_eq_none_of_register? done
  rw [register?_of_not_contains (by simp [contains, fresh])] at done
  cases done
  exact lookup_insertEntry f fresh other

theorem Ascending.register? (h : r.Ascending) (done : r.register? name f = some after) :
    after.Ascending := by
  have fresh := get?_eq_none_of_register? done
  rw [register?_of_not_contains (by simp [contains, fresh])] at done
  cases done
  exact insertEntry_ascending f fresh h

structure Consistent (r : Registry σ) : Prop where
  ascending : r.names.Pairwise fun earlier later => Text.bytes earlier < Text.bytes later
  length_names : r.names.length = r.size
  mem_names : ∀ name, name ∈ r.names ↔ r.contains name
  contains_iff : ∀ name, r.contains name ↔ ∃ f, r.get? name = some f
  isEmpty_iff : r.isEmpty ↔ r.size = 0

theorem Ascending.consistent (h : r.Ascending) : r.Consistent where
  ascending := h.imp Text.bytes_lt_of_lt
  length_names := by simp [names, size]
  mem_names _ := lookup_isSome_iff_mem.symm
  contains_iff _ := Option.isSome_iff_exists
  isEmpty_iff := by simp [isEmpty, size]

end Registry

/-- What can be asked of a registry, of which copies may be kept. -/
inductive Request (σ : Type) where
  | register (name : String) (f : RuleFunction σ)
  | save
  | restore (copy : Nat)
  | get (name : String)
  | contains (name : String)
  | size
  | isEmpty
  | names

inductive Answer (σ : Type) where
  | done
  | refused (fault : RuleFault)
  | noCopy
  | function (f : Option (RuleFunction σ))
  | flag (b : Bool)
  | number (n : Nat)
  | names (names : List String)

/-- A registry in use and the copies that have been taken of it, numbered from the first one on. -/
structure Session (σ : Type) where
  registry : Registry σ
  copies : List (Registry σ)

namespace Session

def ofRegistry (r : Registry σ) : Session σ := ⟨r, []⟩

def step (s : Session σ) : Request σ → Answer σ × Session σ
  | .register name f =>
      match s.registry.register? name f with
      | some registry => (.done, { s with registry })
      | none => (.refused (.conflict name), s)
  | .save => (.done, { s with copies := s.copies ++ [s.registry] })
  | .restore copy =>
      match s.copies[copy]? with
      | some registry => (.done, { s with registry })
      | none => (.noCopy, s)
  | .get name => (.function (s.registry.get? name), s)
  | .contains name => (.flag (s.registry.contains name), s)
  | .size => (.number s.registry.size, s)
  | .isEmpty => (.flag s.registry.isEmpty, s)
  | .names => (.names s.registry.names, s)

def after (s : Session σ) (requests : List (Request σ)) : Session σ :=
  requests.foldl (fun s request => (s.step request).2) s

variable {s : Session σ} {name : String} {f : RuleFunction σ}

@[simp] theorem after_nil : s.after [] = s := rfl

@[simp] theorem after_cons (request : Request σ) (later : List (Request σ)) :
    s.after (request :: later) = (s.step request).2.after later := rfl

def All (P : Registry σ → Prop) (s : Session σ) : Prop := P s.registry ∧ ∀ copy ∈ s.copies, P copy

theorem All.step {P : Registry σ → Prop} (h : s.All P)
    (registered : ∀ {r after : Registry σ} {name f}, P r → r.register? name f = some after → P after)
    (request : Request σ) : (s.step request).2.All P := by
  cases request with
  | register name f =>
    simp only [Session.step]
    split
    · next done => exact ⟨registered h.1 done, h.2⟩
    · exact h
  | save =>
    refine ⟨h.1, fun copy mem => ?_⟩
    rcases List.mem_append.mp mem with old | new
    · exact h.2 copy old
    · obtain rfl := List.mem_singleton.mp new
      exact h.1
  | restore copy =>
    simp only [Session.step]
    split
    · next found => exact ⟨h.2 _ (List.mem_of_getElem? found), h.2⟩
    · exact h
  | get | contains | size | isEmpty | names => exact h

theorem after_ascending (h : s.All Registry.Ascending) (requests : List (Request σ)) :
    (s.after requests).All Registry.Ascending := by
  induction requests generalizing s with
  | nil => exact h
  | cons request later ih => exact ih (h.step Registry.Ascending.register? request)

theorem start_ascending (standard : Bool) :
    (ofRegistry (if standard then .standard else .empty) : Session σ).All Registry.Ascending := by
  refine ⟨?_, nofun⟩
  cases standard
  · exact Registry.empty_ascending
  · exact Registry.standard_ascending

theorem step_register_of_contains (taken : s.registry.contains name = true) :
    s.step (.register name f) = (.refused (.conflict name), s) := by
  simp only [step, Registry.register?_of_contains taken]

theorem step_register_of_not_contains (free : s.registry.contains name = false) :
    ∃ registry, s.step (.register name f) = (.done, { s with registry }) ∧
      ∀ other, registry.get? other = if other = name then some f else s.registry.get? other := by
  have done := Registry.register?_of_not_contains (f := f) free
  exact ⟨_, by simp only [step, done], Registry.get?_of_register? done⟩

theorem step_register_done_iff :
    (s.step (.register name f)).1 = .done ↔ s.registry.contains name = false := by
  cases held : s.registry.contains name with
  | true => simp [step_register_of_contains held]
  | false =>
    obtain ⟨registry, done, -⟩ := step_register_of_not_contains (f := f) held
    simp [done]

theorem copies_prefix_step (request : Request σ) : s.copies <+: (s.step request).2.copies := by
  cases request with
  | register name f =>
    simp only [step]
    split <;> exact List.prefix_rfl
  | save => exact List.prefix_append _ _
  | restore copy =>
    simp only [step]
    split <;> exact List.prefix_rfl
  | get | contains | size | isEmpty | names => exact List.prefix_rfl

theorem copies_prefix_after (requests : List (Request σ)) :
    s.copies <+: (s.after requests).copies := by
  induction requests generalizing s with
  | nil => exact List.prefix_rfl
  | cons request later ih => exact (copies_prefix_step request).trans ih

theorem copy_after {copy : Nat} {registry : Registry σ} (held : s.copies[copy]? = some registry)
    (requests : List (Request σ)) : (s.after requests).copies[copy]? = some registry := by
  obtain ⟨more, same⟩ := copies_prefix_after (s := s) requests
  have inside := (List.getElem?_eq_some_iff.mp held).1
  rw [← same, List.getElem?_append_left inside, held]

theorem step_restore {copy : Nat} {registry : Registry σ} (held : s.copies[copy]? = some registry) :
    s.step (.restore copy) = (.done, { s with registry }) := by
  simp only [step, held]

theorem get?_step (bound : s.registry.get? name = some f) {request : Request σ}
    (kept : ∀ copy, request ≠ .restore copy) : (s.step request).2.registry.get? name = some f := by
  cases request with
  | register other g =>
    simp only [step]
    split
    · next done =>
      rw [Registry.get?_of_register? done, if_neg, bound]
      rintro rfl
      rw [Registry.get?_eq_none_of_register? done] at bound
      cases bound
    · exact bound
  | restore copy => exact absurd rfl (kept copy)
  | save | get | contains | size | isEmpty | names => exact bound

theorem get?_after (bound : s.registry.get? name = some f) {requests : List (Request σ)}
    (kept : ∀ copy, .restore copy ∉ requests) :
    (s.after requests).registry.get? name = some f := by
  induction requests generalizing s with
  | nil => exact bound
  | cons request later ih =>
    have step := get?_step bound fun copy (same : request = .restore copy) =>
      kept copy (same ▸ List.mem_cons_self)
    exact ih step fun copy mem => kept copy (List.mem_cons_of_mem _ mem)

/-- From an empty registry or the standard one on, whatever has been asked so far: a name is taken once
and then refused, with nothing changed; a function stays under its name until a copy is put in place;
a copy stays what the registry was when it was taken, and going back to it brings exactly that back;
and the names, the number and the functions that are shown agree. -/
theorem registry_written_once (standard : Bool) (earlier : List (Request σ)) :
    let s := (ofRegistry (if standard then .standard else .empty)).after earlier
    (∀ name f, (s.step (.register name f)).1 = .done ↔ s.registry.contains name = false) ∧
      (∀ name f, s.registry.contains name = true →
        s.step (.register name f) = (.refused (.conflict name), s)) ∧
      (∀ name f, s.registry.contains name = false → ∃ registry,
        s.step (.register name f) = (.done, { s with registry }) ∧
          registry.get? name = some f ∧
          ∀ other, other ≠ name → registry.get? other = s.registry.get? other) ∧
      (∀ name f later, s.registry.get? name = some f → (∀ copy, .restore copy ∉ later) →
        (s.after later).registry.get? name = some f) ∧
      (∀ later, let t := s.after (.save :: later)
        t.step (.restore s.copies.length) = (.done, { t with registry := s.registry })) ∧
      (∀ (copy : Nat) registry later, s.copies[copy]? = some registry →
        (s.after later).copies[copy]? = some registry) ∧
      s.All Registry.Consistent := by
  intro s
  refine ⟨fun _ _ => step_register_done_iff, fun _ _ => step_register_of_contains, ?_,
    fun _ _ _ bound kept => get?_after bound kept, ?_, fun _ _ later held => copy_after held later, ?_⟩
  · intro name f free
    obtain ⟨registry, done, bindings⟩ := step_register_of_not_contains (f := f) free
    refine ⟨registry, done, by rw [bindings, if_pos rfl], fun other apart => ?_⟩
    rw [bindings, if_neg apart]
  · intro later t
    have taken : (s.step .save).2.copies[s.copies.length]? = some s.registry := by
      simp [step]
    exact step_restore (copy_after taken later)
  · obtain ⟨used, kept⟩ := after_ascending (start_ascending standard) earlier
    exact ⟨used.consistent, fun copy mem => (kept copy mem).consistent⟩

theorem registry_written_once_standard :
    let f : RuleFunction Unit := fun args _ => (.value (.arr args), ())
    let s := (ofRegistry .standard).after [.register "all" f]
    let t := s.after [.save, .register "last" f]
    s.step (.register "starts_with" f) = (.refused (.conflict "starts_with"), s) ∧
      s.registry.contains "last" = false ∧ t.registry.contains "last" = true ∧
      t.registry.get? "all" = some f ∧
      t.step (.restore 0) = (.done, { t with registry := s.registry }) := by
  intro f s t
  obtain ⟨-, refused, registered, stays, restored, -, -⟩ :=
    registry_written_once (σ := Unit) true [.register "all" f]
  refine ⟨refused "starts_with" f (by decide), by decide, by decide, ?_, restored [.register "last" f]⟩
  apply stays "all" f [.save, .register "last" f]
  · rfl
  · simp

end Session

end Verdict
