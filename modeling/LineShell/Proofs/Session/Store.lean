import LineShell.Session.Store
import Mathlib.Data.Nat.Digits.Defs

/-!
# What the store keeps

Each change of the store is told by what it makes of the session of every id.  Sessions get the ids
of a supply, one after the other; a new id is not taken if all ids of the supply are distinct.
-/

namespace LineShell

theorem Text.ofNat_injective : Function.Injective Text.ofNat := by
  intro left right heq
  calc
    left = Nat.ofDigitChars 10 (Text.ofNat left) 0 := Nat.ofDigitChars_ten_toDigits.symm
    _ = Nat.ofDigitChars 10 (Text.ofNat right) 0 := by rw [heq]
    _ = right := Nat.ofDigitChars_ten_toDigits

namespace SessionStore

variable {store : SessionStore} {id : Text}

/-- Every open session has one of the ids of a supply that were given out so far. -/
def Numbered (ids : Nat → Text) (store : SessionStore) : Prop :=
  ∀ session ∈ store.sessions, ∃ number < store.opened, session.id = ids number

theorem mem_of_get? {session : Session} (h : store.get? id = some session) :
    session ∈ store.sessions :=
  List.mem_of_find?_eq_some h

theorem id_of_get? {session : Session} (h : store.get? id = some session) : session.id = id := by
  simpa [get?] using List.find?_some h

theorem idAfter_injective : Function.Injective idAfter := by
  intro left right heq
  have hnumbers := Text.ofNat_injective heq
  omega

/-- A new id of a supply of distinct ones is not taken. -/
theorem Numbered.get?_eq_none {ids : Nat → Text} (hstore : store.Numbered ids)
    (hids : Function.Injective ids) : store.get? (ids store.opened) = none := by
  rw [get?, List.find?_eq_none]
  intro session hmem hid
  obtain ⟨number, hnumber, heq⟩ := hstore session hmem
  exact hnumber.ne (hids (heq.symm.trans (by simpa using hid)))

/-! ### Changes -/

/-- Putting a session in its place changes what its id leads to, if anything. -/
theorem get?_update (store : SessionStore) (session : Session) (id : Text) :
    (store.update session).get? id =
      if session.id = id then (store.get? id).map fun _ => session else store.get? id := by
  -- A session put in the place of another one has its id, so the first one of an id stays the first.
  have hids : ∀ open_ : Session,
      (if open_.id = session.id then session else open_).id = open_.id := by
    intro open_
    split <;> rename_i hid
    · exact hid.symm
    · rfl
  simp only [get?, update, List.find?_map, Function.comp_def, hids]
  cases hfind : store.sessions.find? fun session => session.id == id with
  | none => simp
  | some found =>
      have hfound : found.id = id := by simpa using List.find?_some hfind
      simp only [Option.map_some, hfound, eq_comm (a := id)]
      split <;> rfl

/-- Opening a session puts it under its id and leaves the others. -/
theorem get?_create (store : SessionStore) (directory id other : Text) :
    (store.create directory id).2.get? other =
      if id = other then some (store.create directory id).1 else store.get? other := by
  have hopened : ∀ kept : SessionStore,
      SessionStore.get? { kept with opened := store.opened + 1 } other = kept.get? other :=
    fun _ => rfl
  simp only [create, hopened]
  split <;> rename_i htaken
  · rw [get?_update]
    split <;> rename_i hid
    · rw [← hid, htaken, Option.map_some]
    · rfl
  · split <;> rename_i hid
    · subst hid
      simp only [get?] at htaken ⊢
      simp [List.find?_append, htaken]
    · simp [get?, List.find?_append, hid]

theorem numbered_update {ids : Nat → Text} (hstore : store.Numbered ids) (session : Session) :
    (store.update session).Numbered ids := by
  intro other hmem
  obtain ⟨kept, hkept, rfl⟩ := List.mem_map.mp hmem
  obtain ⟨number, hnumber, heq⟩ := hstore kept hkept
  refine ⟨number, hnumber, ?_⟩
  split <;> rename_i hid
  · exact hid.symm.trans heq
  · exact heq

/-- The sessions after one was opened are the old ones and the new one. -/
theorem mem_create {directory id : Text} {session : Session}
    (h : session ∈ (store.create directory id).2.sessions) :
    session ∈ store.sessions ∨ session = (store.create directory id).1 := by
  simp only [create] at h
  split at h
  · obtain ⟨kept, hkept, rfl⟩ := List.mem_map.mp h
    split
    · exact .inr rfl
    · exact .inl hkept
  · exact (List.mem_append.mp h).imp_right List.mem_singleton.mp

theorem numbered_create {ids : Nat → Text} (hstore : store.Numbered ids) (directory : Text) :
    (store.create directory (ids store.opened)).2.Numbered ids := by
  intro session hmem
  rcases mem_create hmem with hmem | rfl
  · obtain ⟨number, hnumber, heq⟩ := hstore session hmem
    exact ⟨number, Nat.lt_succ_of_lt hnumber, heq⟩
  · exact ⟨store.opened, Nat.lt_succ_self _, rfl⟩

/-- A session that is put in the place of one of its id is found there. -/
theorem get?_update_of_get? {id : Text} {session updated : Session}
    (hsession : store.get? id = some session) (hid : updated.id = id) :
    (store.update updated).get? id = some updated := by
  rw [get?_update, if_pos hid, hsession, Option.map_some]

/-- Closing a session takes away what its id leads to. -/
theorem get?_of_close? {closed : SessionStore} (h : store.close? id = some closed) (other : Text) :
    closed.get? other = if id = other then none else store.get? other := by
  unfold close? at h
  split at h
  · cases h
  · cases h
    simp only [get?, List.find?_filter]
    split <;> rename_i hid
    · simp [hid]
    · congr 1
      funext session
      by_cases hsession : session.id = other
      · simp [hsession, Ne.symm hid]
      · simp [hsession]

theorem mem_of_mem_close? {closed : SessionStore} (h : store.close? id = some closed)
    {session : Session} (hmem : session ∈ closed.sessions) : session ∈ store.sessions := by
  unfold close? at h
  split at h
  · cases h
  · cases h
    exact (List.mem_filter.mp hmem).1

theorem numbered_close? {ids : Nat → Text} {closed : SessionStore} (hstore : store.Numbered ids)
    (h : store.close? id = some closed) : closed.Numbered ids := by
  unfold close? at h
  split at h
  · cases h
  · cases h
    exact fun session hmem => hstore session (List.mem_filter.mp hmem).1

theorem opened_of_close? {closed : SessionStore} (h : store.close? id = some closed) :
    closed.opened = store.opened := by
  unfold close? at h
  split at h
  · cases h
  · cases h
    rfl

theorem close?_eq_none_iff : store.close? id = none ↔ store.get? id = none := by
  unfold close?
  cases store.get? id <;> simp

end SessionStore

end LineShell
