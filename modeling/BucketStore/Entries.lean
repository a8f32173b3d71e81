namespace BucketStore

variable {α β : Type} [DecidableEq α]

/-- Set the value of a key, in its place or at the end. -/
def putEntry (entries : List (α × β)) (key : α) (v : β) : List (α × β) :=
  if entries.any (·.1 = key) then
    entries.map fun entry => if entry.1 = key then (key, v) else entry
  else entries ++ [(key, v)]

/-- Set the values of further entries, one after the other. -/
def putEntries (entries more : List (α × β)) : List (α × β) :=
  more.foldl (fun merged entry => putEntry merged entry.1 entry.2) entries

/-- Entries keyed without repetition. -/
def mergeEntries (entries : List (α × β)) : List (α × β) :=
  putEntries [] entries

theorem lookup_cons_of_ne {key other : α} (apart : key ≠ other) (v : β) (rest : List (α × β)) :
    ((key, v) :: rest).lookup other = rest.lookup other := by
  have differs : (other == key) = false := beq_eq_false_iff_ne.mpr apart.symm
  rw [List.lookup_cons, differs]

@[simp] theorem lookup_putEntry_self (entries : List (α × β)) (key : α) (v : β) :
    (putEntry entries key v).lookup key = some v := by
  unfold putEntry
  split
  · rename_i found
    induction entries with
    | nil => cases found
    | cons entry rest ih =>
      rw [List.map_cons]
      by_cases same : entry.1 = key
      · rw [if_pos same, List.lookup_cons_self]
      · rw [if_neg same, lookup_cons_of_ne same, ih (by simpa [same] using found)]
  · rename_i missing
    induction entries with
    | nil => exact List.lookup_cons_self
    | cons entry rest ih =>
      have apart : entry.1 ≠ key := fun same => missing (by simp [same])
      rw [List.cons_append, lookup_cons_of_ne apart, ih fun found => missing (by simp [found])]

theorem lookup_putEntry_of_ne {key other : α} (apart : key ≠ other) (entries : List (α × β))
    (v : β) : (putEntry entries key v).lookup other = entries.lookup other := by
  unfold putEntry
  split <;> rename_i found <;> clear found
  · induction entries with
    | nil => rfl
    | cons entry rest ih =>
      rw [List.map_cons]
      by_cases same : entry.1 = key
      · rw [if_pos same, lookup_cons_of_ne apart, ih, lookup_cons_of_ne (same ▸ apart)]
      · rw [if_neg same, List.lookup_cons, List.lookup_cons, ih]
  · induction entries with
    | nil => exact lookup_cons_of_ne apart v []
    | cons entry rest ih => rw [List.cons_append, List.lookup_cons, List.lookup_cons, ih]

theorem lookup_putEntry (entries : List (α × β)) (key : α) (v : β) (other : α) :
    (putEntry entries key v).lookup other
      = if key = other then some v else entries.lookup other := by
  by_cases same : key = other
  · rw [if_pos same, same, lookup_putEntry_self]
  · rw [if_neg same, lookup_putEntry_of_ne same]

theorem mem_putEntry {entries : List (α × β)} {key : α} {v : β} {other : α × β}
    (member : other ∈ putEntry entries key v) : other ∈ entries ∨ other = (key, v) := by
  unfold putEntry at member
  split at member
  · obtain ⟨old, within, rfl⟩ := List.mem_map.mp member
    split
    · exact .inr rfl
    · exact .inl within
  · simpa using member

/-- A key that is set keeps its place, and a new one comes to the end. -/
theorem keys_putEntry (entries : List (α × β)) (key : α) (v : β) :
    (putEntry entries key v).map Prod.fst
      = if key ∈ entries.map Prod.fst then entries.map Prod.fst
        else entries.map Prod.fst ++ [key] := by
  have held : (entries.any (·.1 = key)) = true ↔ key ∈ entries.map Prod.fst := by
    simp
  unfold putEntry
  split
  next found =>
    rw [if_pos (held.mp found), List.map_map]
    refine List.map_congr_left fun old _ => ?_
    dsimp only [Function.comp]
    split
    next same => exact same.symm
    · rfl
  next fresh => rw [if_neg fun found => fresh (held.mpr found), List.map_append, List.map_singleton]

theorem nodup_putEntry {entries : List (α × β)} (apart : (entries.map Prod.fst).Nodup) (key : α)
    (v : β) : ((putEntry entries key v).map Prod.fst).Nodup := by
  rw [keys_putEntry]
  split
  · exact apart
  next missing => exact List.nodup_append.mpr ⟨apart, List.pairwise_singleton _ _,
      fun name member last found same => missing (List.mem_singleton.mp found ▸ same ▸ member)⟩

private theorem putEntry_of_missing {entries : List (α × β)} {key : α}
    (missing : key ∉ entries.map Prod.fst) (v : β) :
    putEntry entries key v = entries ++ [(key, v)] := by
  refine if_neg fun found => missing ?_
  obtain ⟨entry, member, same⟩ := List.any_eq_true.mp found
  exact List.mem_map.mpr ⟨entry, member, of_decide_eq_true same⟩

theorem putEntries_cons (entries : List (α × β)) (entry : α × β) (more : List (α × β)) :
    putEntries entries (entry :: more) = putEntries (putEntry entries entry.1 entry.2) more := rfl

theorem putEntries_append (entries first last : List (α × β)) :
    putEntries entries (first ++ last) = putEntries (putEntries entries first) last :=
  List.foldl_append

theorem mem_putEntries {entries more : List (α × β)} {other : α × β}
    (member : other ∈ putEntries entries more) : other ∈ entries ++ more := by
  induction more generalizing entries with
  | nil => exact List.mem_append_left _ member
  | cons entry more ih =>
    obtain earlier | later := List.mem_append.mp (ih member)
    · obtain old | rfl := mem_putEntry earlier
      · exact List.mem_append_left _ old
      · exact List.mem_append_right _ List.mem_cons_self
    · exact List.mem_append_right _ (List.mem_cons_of_mem _ later)

theorem nodup_putEntries {entries : List (α × β)} (apart : (entries.map Prod.fst).Nodup)
    (more : List (α × β)) : ((putEntries entries more).map Prod.fst).Nodup := by
  induction more generalizing entries with
  | nil => exact apart
  | cons entry more ih => exact ih (nodup_putEntry apart _ _)

private theorem putEntries_of_nodup {entries more : List (α × β)}
    (apart : ((entries ++ more).map Prod.fst).Nodup) :
    putEntries entries more = entries ++ more := by
  induction more generalizing entries with
  | nil => exact (List.append_nil entries).symm
  | cons entry more ih =>
    have missing : entry.1 ∉ entries.map Prod.fst := fun found => by
      rw [List.map_append, List.map_cons, List.nodup_append] at apart
      exact apart.2.2 entry.1 found entry.1 List.mem_cons_self rfl
    rw [List.append_cons] at apart ⊢
    rw [putEntries_cons, putEntry_of_missing missing]
    exact ih apart

/-- Where no key is repeated, nothing is replaced. -/
theorem mergeEntries_of_nodup {entries : List (α × β)} (apart : (entries.map Prod.fst).Nodup) :
    mergeEntries entries = entries :=
  putEntries_of_nodup (by rwa [List.nil_append])

end BucketStore
