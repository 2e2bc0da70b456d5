import Mathlib.Data.List.AList

/-!
# Finite tables and their indexes

`Table κ ν` is a finite map from keys to values.  An index of a table is a second table
that leads from an attribute of a key back to the key; `Indexes attr t ix` says that it
does so for every key of the table and holds nothing else, which makes the attribute
unique among the keys (`Indexes.unique`).  `emplace` adds an entry where there is none.  A
table of tables collects the elements of a list by two keys; `find_foldl_modify` says what
they make of an entry.
-/

/-- A finite map. -/
abbrev Table (κ ν : Type*) := AList fun _ : κ => ν

namespace Table

variable {κ ν ι : Type*}

section

variable [DecidableEq κ]

theorem lookup_insert (t : Table κ ν) (k : κ) (v : ν) (k' : κ) :
    (t.insert k v).lookup k' = if k' = k then some v else t.lookup k' := by
  split_ifs with h
  · rw [h, AList.lookup_insert]
  · exact AList.lookup_insert_ne h

theorem lookup_erase (t : Table κ ν) (k k' : κ) :
    (t.erase k).lookup k' = if k' = k then none else t.lookup k' := by
  split_ifs with h
  · rw [h, AList.lookup_erase]
  · exact AList.lookup_erase_ne h

/-- Change the entry of a key, which starts as `d`. -/
def upsert (t : Table κ ν) (k : κ) (d : ν) (f : ν → ν) : Table κ ν :=
  t.insert k (f ((t.lookup k).getD d))

theorem lookup_upsert (t : Table κ ν) (k : κ) (d : ν) (f : ν → ν) (k' : κ) :
    (t.upsert k d f).lookup k' =
      if k' = k then some (f ((t.lookup k).getD d)) else t.lookup k' := lookup_insert ..

/-- What holds of every entry before a change and of the new one holds of every entry. -/
theorem forall_upsert {t : Table κ ν} {k : κ} {d : ν} {f : ν → ν} {p : κ → ν → Prop}
    (h : ∀ k' v, t.lookup k' = some v → p k' v) (hf : p k (f ((t.lookup k).getD d))) :
    ∀ k' v, (t.upsert k d f).lookup k' = some v → p k' v := by
  intro k' v hv
  rw [lookup_upsert] at hv
  split_ifs at hv with hk
  · rw [Option.some.injEq] at hv
    rw [hk, ← hv]
    exact hf
  · exact h k' v hv

/-- The entries as pairs. -/
def pairs (t : Table κ ν) : List (κ × ν) := t.entries.map fun e => (e.1, e.2)

theorem mem_pairs {t : Table κ ν} {k : κ} {v : ν} :
    (k, v) ∈ t.pairs ↔ t.lookup k = some v := by
  rw [← Option.mem_def, AList.mem_lookup_iff, pairs, List.mem_map]
  constructor
  · rintro ⟨⟨k', v'⟩, hmem, heq⟩
    cases heq
    exact hmem
  · intro hmem
    exact ⟨_, hmem, rfl⟩

/-- The values under the keys of a kind. -/
def valuesWhere (t : Table κ ν) (p : κ → Bool) : List ν :=
  (t.pairs.filter fun e => p e.1).map (·.2)

theorem mem_valuesWhere {t : Table κ ν} {p : κ → Bool} {v : ν} :
    v ∈ t.valuesWhere p ↔ ∃ k, t.lookup k = some v ∧ p k = true := by
  rw [valuesWhere, List.mem_map]
  constructor
  · rintro ⟨⟨k, v⟩, hmem, rfl⟩
    obtain ⟨hmem, hp⟩ := List.mem_filter.1 hmem
    exact ⟨k, mem_pairs.1 hmem, hp⟩
  · rintro ⟨k, hk, hp⟩
    exact ⟨(k, v), List.mem_filter.2 ⟨mem_pairs.2 hk, hp⟩, rfl⟩

/-- There is another element when there are two. -/
theorem two_le_length_iff {α : Type*} {l : List α} (hl : l.Nodup) {a : α} (ha : a ∈ l) :
    2 ≤ l.length ↔ ∃ b ∈ l, b ≠ a := by
  constructor
  · intro hlen
    by_contra hall
    push Not at hall
    rw [List.eq_replicate_of_mem hall, List.nodup_replicate] at hl
    omega
  · rintro ⟨b, hb, hne⟩
    rcases l with - | ⟨c, - | ⟨d, l⟩⟩
    · cases ha
    · exact absurd ((List.mem_singleton.1 hb).trans (List.mem_singleton.1 ha).symm) hne
    · simp

/-- A condition on every value as soon as there are two. -/
theorem forall_of_two_iff {t : Table κ ν} {p : κ → Bool} {q : ν → Prop} :
    (2 ≤ (t.valuesWhere p).length → ∀ v ∈ t.valuesWhere p, q v) ↔
      ∀ k v, t.lookup k = some v → p k = true → (∃ k', k' ≠ k ∧ (t.lookup k').isSome ∧
        p k' = true) → q v := by
  have hnodup : ((t.pairs.filter fun e => p e.1).map (·.1)).Nodup := by
    refine List.Nodup.sublist ((List.filter_sublist).map _) ?_
    rw [pairs, List.map_map]
    exact t.keys_nodup
  have hkeys : ∀ k, k ∈ (t.pairs.filter fun e => p e.1).map (·.1) ↔
      (t.lookup k).isSome ∧ p k = true := by
    intro k
    rw [List.mem_map, Option.isSome_iff_exists]
    constructor
    · rintro ⟨⟨k, v⟩, hmem, rfl⟩
      obtain ⟨hmem, hp⟩ := List.mem_filter.1 hmem
      exact ⟨⟨v, mem_pairs.1 hmem⟩, hp⟩
    · rintro ⟨⟨v, hv⟩, hp⟩
      exact ⟨(k, v), List.mem_filter.2 ⟨mem_pairs.2 hv, hp⟩, rfl⟩
  have hlen : (t.valuesWhere p).length =
      ((t.pairs.filter fun e => p e.1).map (·.1)).length := by
    rw [valuesWhere, List.length_map, List.length_map]
  have htwo : ∀ k v, t.lookup k = some v → p k = true →
      (2 ≤ (t.valuesWhere p).length ↔
        ∃ k', k' ≠ k ∧ (t.lookup k').isSome ∧ p k' = true) := by
    intro k v hk hp
    rw [hlen, two_le_length_iff hnodup ((hkeys k).2 ⟨by rw [hk]; rfl, hp⟩)]
    constructor
    · rintro ⟨k', hmem, hne⟩
      exact ⟨k', hne, (hkeys k').1 hmem⟩
    · rintro ⟨k', hne, hmem⟩
      exact ⟨k', (hkeys k').2 hmem, hne⟩
  constructor
  · intro h k v hk hp hother
    exact h ((htwo k v hk hp).2 hother) v (mem_valuesWhere.2 ⟨k, hk, hp⟩)
  · intro h hlen v hv
    obtain ⟨k, hk, hp⟩ := mem_valuesWhere.1 hv
    exact h k v hk hp ((htwo k v hk hp).1 hlen)

/-- An entry is added unless its key is there. -/
def emplace (t : Table κ ν) (k : κ) (v : ν) : Table κ ν :=
  if (t.lookup k).isSome then t else t.insert k v

theorem lookup_emplace (t : Table κ ν) (k : κ) (v : ν) (k' : κ) :
    (t.emplace k v).lookup k' = (t.lookup k').or (if k' = k then some v else none) := by
  unfold emplace
  by_cases hk : (t.lookup k).isSome
  · rw [if_pos hk]
    by_cases heq : k' = k
    · obtain ⟨w, hw⟩ := Option.isSome_iff_exists.1 hk
      rw [heq, hw]
      rfl
    · rw [if_neg heq, Option.or_none]
  · have hnone : t.lookup k = none := Option.not_isSome_iff_eq_none.1 hk
    rw [if_neg hk, lookup_insert]
    by_cases heq : k' = k
    · rw [if_pos heq, if_pos heq, heq, hnone]
      rfl
    · rw [if_neg heq, if_neg heq, Option.or_none]

/-- Of the entries that are added, the first one of a key stays. -/
theorem lookup_foldl_emplace (t : Table κ ν) (entries : List (κ × ν)) (k : κ) :
    (entries.foldl (fun t e => t.emplace e.1 e.2) t).lookup k =
      (t.lookup k).or (entries.lookup k) := by
  induction entries generalizing t with
  | nil => simp
  | cons e entries ih =>
    rw [List.foldl_cons, ih, lookup_emplace, Option.or_assoc, List.lookup_cons]
    congr 1
    by_cases heq : k = e.1
    · simp [heq]
    · simp [heq, beq_eq_false_iff_ne.2 heq]

/-- Keys that are added with one value keep the value they have. -/
theorem lookup_foldl_emplace_const (t : Table κ ν) (keys : List κ) (v : ν) (k : κ) :
    (keys.foldl (fun t k => t.emplace k v) t).lookup k =
      (t.lookup k).or (if k ∈ keys then some v else none) := by
  induction keys generalizing t with
  | nil => simp
  | cons key keys ih =>
    rw [List.foldl_cons, ih, lookup_emplace, Option.or_assoc]
    congr 1
    by_cases heq : k = key
    · simp [heq]
    · simp [heq]

theorem lookup_foldl_erase (t : Table κ ν) (keys : List κ) (k : κ) :
    (keys.foldl (fun t k => t.erase k) t).lookup k = if k ∈ keys then none else t.lookup k := by
  induction keys generalizing t with
  | nil => simp
  | cons key keys ih =>
    rw [List.foldl_cons, ih, lookup_erase]
    by_cases heq : k = key
    · simp [heq]
    · simp [heq]

/-- The table has exactly the entries of a list, when the list has one value for each key. -/
theorem lookup_eq_some_iff_mem {entries : List (κ × ν)} :
    (∀ k v, entries.lookup k = some v ↔ (k, v) ∈ entries) ↔
      ∀ k v w, (k, v) ∈ entries → (k, w) ∈ entries → v = w := by
  constructor
  · intro h k v w hv hw
    have hboth := (h k v).2 hv
    rw [(h k w).2 hw] at hboth
    exact (Option.some.inj hboth).symm
  · intro h k v
    have hfirst : ∀ v, entries.lookup k = some v → (k, v) ∈ entries := fun v hv => by
      obtain ⟨l, l', rfl, -⟩ := List.lookup_eq_some_iff.1 hv
      simp
    refine ⟨hfirst v, fun hmem => ?_⟩
    cases hlookup : entries.lookup k with
    | none => exact absurd (List.lookup_eq_none_iff.1 hlookup _ hmem) (by simp)
    | some w => rw [h k w v (hfirst w hlookup) hmem]

theorem mem_of_lookup {t : Table κ ν} {k : κ} {v : ν} (h : t.lookup k = some v) : k ∈ t :=
  AList.lookup_isSome.1 (by rw [h]; rfl)

end

/-! ### Tables of tables -/

section Nested

variable {ε : Type*} [DecidableEq ι] [DecidableEq κ]

/-- The entry under two keys. -/
def find (t : Table ι (Table κ ν)) (i : ι) (k : κ) : Option ν := (t.lookup i).bind (·.lookup k)

/-- Change the entry under two keys, which starts as `d`. -/
def modify (t : Table ι (Table κ ν)) (i : ι) (k : κ) (d : ν) (f : ν → ν) : Table ι (Table κ ν) :=
  t.upsert i ∅ fun inner => inner.upsert k d f

theorem find_empty (i : ι) (k : κ) : find (∅ : Table ι (Table κ ν)) i k = none := rfl

theorem find_modify (t : Table ι (Table κ ν)) (i : ι) (k : κ) (d : ν) (f : ν → ν) (i' : ι)
    (k' : κ) :
    find (modify t i k d f) i' k' =
      if i' = i ∧ k' = k then some (f ((find t i k).getD d)) else find t i' k' := by
  unfold find modify
  rw [lookup_upsert]
  by_cases hi : i' = i
  · subst hi
    rw [if_pos rfl, Option.bind_some, lookup_upsert]
    cases t.lookup i' with
    | none => by_cases hk : k' = k <;> simp [hk]
    | some inner => by_cases hk : k' = k <;> simp [hk]
  · rw [if_neg hi, if_neg fun h => hi h.1]

variable {index : ε → ι} {key : ε → κ} {d : ν} {f : ε → ν → ν}

/-- An entry is what the elements of its keys make of it, one after the other. -/
theorem find_foldl_modify (l : List ε) (t : Table ι (Table κ ν)) (i : ι) (k : κ) :
    find (l.foldl (fun t e => modify t (index e) (key e) d (f e)) t) i k =
      (l.filter fun e => i = index e ∧ k = key e).foldl (fun o e => some (f e (o.getD d)))
        (find t i k) := by
  induction l generalizing t with
  | nil => rfl
  | cons e l ih =>
    rw [List.foldl_cons, ih, find_modify, List.filter_cons]
    by_cases h : i = index e ∧ k = key e
    · obtain ⟨rfl, rfl⟩ := h
      simp
    · simp [h]

/-- There is an entry exactly under the keys of the elements. -/
theorem isSome_find_foldl (l : List ε) (i : ι) (k : κ) :
    (find (l.foldl (fun t e => modify t (index e) (key e) d (f e)) ∅) i k).isSome ↔
      ∃ e ∈ l, i = index e ∧ k = key e := by
  have hloop : ∀ (l : List ε) (o : Option ν),
      (l.foldl (fun o e => some (f e (o.getD d))) o).isSome ↔ o.isSome ∨ l ≠ [] := by
    intro l
    induction l with
    | nil => simp
    | cons e l ih =>
      intro o
      rw [List.foldl_cons, ih]
      simp
  rw [find_foldl_modify, hloop, find_empty, ← List.length_pos_iff, List.length_pos_iff_exists_mem]
  simp [List.mem_filter]

/-- What each element gives to an entry of its keys, and keeps, every entry has. -/
theorem forall_find_foldl {p : ι → κ → ν → Prop} (l : List ε)
    (h : ∀ e ∈ l, ∀ v, p (index e) (key e) (f e v)) {i : ι} {k : κ} {v : ν}
    (hv : find (l.foldl (fun t e => modify t (index e) (key e) d (f e)) ∅) i k = some v) :
    p i k v := by
  have hloop : ∀ (l' : List ε) (o : Option ν), (∀ e ∈ l', ∀ v, p i k (f e v)) →
      (∀ v, o = some v → p i k v) →
      ∀ v, l'.foldl (fun o e => some (f e (o.getD d))) o = some v → p i k v := by
    intro l'
    induction l' with
    | nil => exact fun o _ ho => ho
    | cons e l' ih =>
      intro o hl ho
      apply ih _ fun e' he' => hl e' (List.mem_cons_of_mem _ he')
      intro v hv
      cases hv
      exact hl e (List.mem_cons_self ..) _
  rw [find_foldl_modify, find_empty] at hv
  refine hloop _ none ?_ (by simp) v hv
  intro e he v
  obtain ⟨hmem, hkeys⟩ := List.mem_filter.1 he
  obtain ⟨rfl, rfl⟩ := of_decide_eq_true hkeys
  exact h e hmem v

/-- What a new entry has, and each element keeps for an entry of its keys, every entry has. -/
theorem find_foldl_induction {p : ν → Prop} {l : List ε} {i : ι} {k : κ} (hd : p d)
    (h : ∀ e ∈ l, i = index e → k = key e → ∀ v, p v → p (f e v)) {v : ν}
    (hv : find (l.foldl (fun t e => modify t (index e) (key e) d (f e)) ∅) i k = some v) :
    p v := by
  have hloop : ∀ (l' : List ε) (o : Option ν), (∀ e ∈ l', ∀ v, p v → p (f e v)) →
      p (o.getD d) → p ((l'.foldl (fun o e => some (f e (o.getD d))) o).getD d) := by
    intro l'
    induction l' with
    | nil => exact fun o _ ho => ho
    | cons e l' ih =>
      intro o hl ho
      exact ih _ (fun e' he' => hl e' (List.mem_cons_of_mem _ he'))
        (hl e List.mem_cons_self _ ho)
  rw [find_foldl_modify, find_empty] at hv
  have hall := hloop (l.filter fun e => i = index e ∧ k = key e) none (fun e he v => ?_) hd
  · rw [hv] at hall
    exact hall
  · obtain ⟨hmem, hkeys⟩ := List.mem_filter.1 he
    obtain ⟨hi, hk⟩ := of_decide_eq_true hkeys
    exact h e hmem hi hk v

end Nested

/-! ### Indexes -/

variable [DecidableEq ι]

/-- `ix` leads from the attribute of every key of `t` to that key, and holds nothing else. -/
def Indexes (attr : κ → ι) (t : Table κ ν) (ix : Table ι κ) : Prop :=
  ∀ i k, ix.lookup i = some k ↔ k ∈ t ∧ attr k = i

namespace Indexes

variable {attr : κ → ι} {t : Table κ ν} {ix : Table ι κ}

theorem empty : Indexes attr (∅ : Table κ ν) ∅ := by
  intro i k
  simp

/-- No two keys share their attribute. -/
theorem unique (h : Indexes attr t ix) {k k' : κ} (hk : k ∈ t) (hk' : k' ∈ t)
    (he : attr k = attr k') : k = k' := by
  have h1 := (h (attr k') k).2 ⟨hk, he⟩
  rw [(h (attr k') k').2 ⟨hk', rfl⟩] at h1
  exact (Option.some.inj h1).symm

variable [DecidableEq κ]

/-- A new key whose attribute is free. -/
theorem insert (h : Indexes attr t ix) {k : κ} (hnew : ∀ k' ∈ t, attr k' ≠ attr k) (v : ν) :
    Indexes attr (t.insert k v) (ix.insert (attr k) k) := by
  intro i k'
  rw [lookup_insert, AList.mem_insert]
  split_ifs with hi
  · constructor
    · intro he
      cases he
      exact ⟨Or.inl rfl, hi.symm⟩
    · rintro ⟨rfl | hmem, ha⟩
      · rfl
      · exact absurd (ha.trans hi) (hnew k' hmem)
  · rw [h]
    constructor
    · rintro ⟨hmem, ha⟩
      exact ⟨Or.inr hmem, ha⟩
    · rintro ⟨rfl | hmem, ha⟩
      · exact absurd ha.symm hi
      · exact ⟨hmem, ha⟩

/-- A new value for a key that is there. -/
theorem replace (h : Indexes attr t ix) {k : κ} (hk : k ∈ t) (v : ν) :
    Indexes attr (t.insert k v) ix := by
  intro i k'
  rw [h, AList.mem_insert]
  constructor
  · rintro ⟨hmem, ha⟩
    exact ⟨Or.inr hmem, ha⟩
  · rintro ⟨rfl | hmem, ha⟩
    · exact ⟨hk, ha⟩
    · exact ⟨hmem, ha⟩

theorem erase (h : Indexes attr t ix) {k : κ} (hk : k ∈ t) :
    Indexes attr (t.erase k) (ix.erase (attr k)) := by
  intro i k'
  rw [lookup_erase, AList.mem_erase]
  split_ifs with hi
  · constructor
    · intro he
      cases he
    · rintro ⟨⟨hne, hmem⟩, ha⟩
      exact absurd (h.unique hmem hk (ha.trans hi)) hne
  · rw [h]
    constructor
    · rintro ⟨hmem, ha⟩
      refine ⟨⟨?_, hmem⟩, ha⟩
      rintro rfl
      exact hi ha.symm
    · rintro ⟨⟨-, hmem⟩, ha⟩
      exact ⟨hmem, ha⟩

end Indexes

end Table
