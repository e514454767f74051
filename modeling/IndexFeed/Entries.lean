/-! Ordered entries: a key keeps the place where it was first written and has the value written last. -/
namespace IndexFeed.Entries

variable {κ α : Type} [DecidableEq κ]

/-- Gives `key` a value: in place where the key is present, at the end where it is not. -/
def put (key : κ) (value : α) : List (κ × α) → List (κ × α)
  | [] => [(key, value)]
  | (k, v) :: rest => if k = key then (k, value) :: rest else (k, v) :: put key value rest

def get? (key : κ) : List (κ × α) → Option α
  | [] => none
  | (k, v) :: rest => if k = key then some v else get? key rest

/-- The entries that remain when all the given ones are written one after the other. -/
def ofList (entries : List (κ × α)) : List (κ × α) :=
  entries.foldl (fun written entry => put entry.1 entry.2 written) []

/-- A key that is given a value has it. -/
theorem get?_put_self (key : κ) (value : α) (entries : List (κ × α)) :
    get? key (put key value entries) = some value := by
  induction entries with
  | nil => simp [put, get?]
  | cons entry rest ih =>
    by_cases h : entry.1 = key <;> simp [put, get?, h, ih]

/-- Giving one key a value leaves the values of the others. -/
theorem get?_put_of_ne {key other : κ} (h : other ≠ key) (value : α) (entries : List (κ × α)) :
    get? other (put key value entries) = get? other entries := by
  induction entries with
  | nil => simp [put, get?, h.symm]
  | cons entry rest ih =>
    by_cases hk : entry.1 = key
    · simp [put, get?, hk, h.symm]
    · simp [put, get?, hk, ih]

/-- Keys keep their places, and a new one comes last. -/
theorem keys_put (key : κ) (value : α) (entries : List (κ × α)) :
    (put key value entries).map Prod.fst =
      if key ∈ entries.map Prod.fst then entries.map Prod.fst
      else entries.map Prod.fst ++ [key] := by
  induction entries with
  | nil => simp [put]
  | cons entry rest ih =>
    by_cases h : entry.1 = key
    · simp [put, h]
    · have h' : key ≠ entry.1 := fun he => h he.symm
      by_cases hm : key ∈ rest.map Prod.fst <;> simp_all [put]

/-- No key comes to be there twice. -/
theorem nodup_put {key : κ} {value : α} {entries : List (κ × α)}
    (h : (entries.map Prod.fst).Nodup) : ((put key value entries).map Prod.fst).Nodup := by
  rw [keys_put]
  split
  · exact h
  · next hfresh =>
    have hapart : ∀ k ∈ entries.map Prod.fst, k ≠ key := fun k hk hsame => hfresh (hsame ▸ hk)
    exact List.nodup_append.mpr ⟨h, by simp, by simpa using hapart⟩

/-- Every entry is the one that was written or was there before. -/
theorem mem_put {key : κ} {value : α} {entries : List (κ × α)} {entry : κ × α}
    (h : entry ∈ put key value entries) : entry = (key, value) ∨ entry ∈ entries := by
  induction entries with
  | nil => exact .inl (List.mem_singleton.mp h)
  | cons first rest ih =>
    rw [put] at h
    split at h
    · next hsame =>
      rcases List.mem_cons.mp h with rfl | hlater
      · exact .inl (by rw [hsame])
      · exact .inr (List.mem_cons_of_mem _ hlater)
    · rcases List.mem_cons.mp h with rfl | hlater
      · exact .inr List.mem_cons_self
      · exact (ih hlater).imp id (List.mem_cons_of_mem _)

private theorem put_of_notMem {key : κ} {entries : List (κ × α)} (h : key ∉ entries.map Prod.fst)
    (value : α) : put key value entries = entries ++ [(key, value)] := by
  induction entries with
  | nil => rfl
  | cons entry rest ih =>
    rw [List.map_cons, List.mem_cons, not_or] at h
    rw [put, if_neg (Ne.symm h.1), ih h.2, List.cons_append]

/-- Entries with keys of their own are written behind those that are there. -/
theorem foldl_put {entries written : List (κ × α)}
    (h : ((written ++ entries).map Prod.fst).Nodup) :
    entries.foldl (fun written entry => put entry.1 entry.2 written) written = written ++ entries := by
  induction entries generalizing written with
  | nil => simp
  | cons entry rest ih =>
    have hfresh : entry.1 ∉ written.map Prod.fst := by
      rw [List.map_append, List.map_cons] at h
      exact fun hmem => (List.nodup_append.mp h).2.2 _ hmem _ List.mem_cons_self rfl
    rw [List.foldl_cons, put_of_notMem hfresh, ih (by simpa using h)]
    simp

/-- Entries with a key each are all kept, in their order. -/
theorem ofList_eq_self {entries : List (κ × α)} (h : (entries.map Prod.fst).Nodup) :
    ofList entries = entries :=
  foldl_put (by simpa using h)

end IndexFeed.Entries
