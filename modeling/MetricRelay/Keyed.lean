-- Finite maps from text, kept in increasing key order with one entry per key, so that two maps with
-- the same entries are equal. Text is ordered by code point, which is also the order of its UTF-8
-- bytes.

namespace MetricRelay

structure Keyed (β : Type) where
  entries : List (String × β)
  increasing : entries.Pairwise (fun a b => a.1 < b.1)
deriving DecidableEq

namespace Keyed

variable {β : Type}

def empty : Keyed β := ⟨[], .nil⟩

instance : EmptyCollection (Keyed β) := ⟨empty⟩
instance : Inhabited (Keyed β) := ⟨empty⟩
instance [Repr β] : Repr (Keyed β) := ⟨fun m n => reprPrec m.entries n⟩

def toList (m : Keyed β) : List (String × β) := m.entries

def keys (m : Keyed β) : List String := m.entries.map Prod.fst

def values (m : Keyed β) : List β := m.entries.map Prod.snd

def find? (m : Keyed β) (key : String) : Option β :=
  (m.entries.find? (fun e => e.1 == key)).map Prod.snd

def contains (m : Keyed β) (key : String) : Bool := (m.find? key).isSome

def isEmpty (m : Keyed β) : Bool := m.entries.isEmpty

def insertEntry (key : String) (value : β) : List (String × β) → List (String × β)
  | [] => [(key, value)]
  | e :: rest =>
    if key < e.1 then (key, value) :: e :: rest
    else if key = e.1 then (key, value) :: rest
    else e :: insertEntry key value rest

theorem mem_insertEntry {key : String} {value : β} {l : List (String × β)} {e : String × β}
    (h : e ∈ insertEntry key value l) : e = (key, value) ∨ e ∈ l := by
  induction l with
  | nil => simpa [insertEntry] using h
  | cons a rest ih =>
    simp only [insertEntry] at h
    split at h
    · simpa using h
    · split at h
      · cases List.mem_cons.1 h with
        | inl h => exact .inl h
        | inr h => exact .inr (List.mem_cons_of_mem a h)
      · cases List.mem_cons.1 h with
        | inl h => exact .inr (h ▸ List.mem_cons_self)
        | inr h =>
          cases ih h with
          | inl h => exact .inl h
          | inr h => exact .inr (List.mem_cons_of_mem a h)

theorem increasing_insertEntry (key : String) (value : β) {l : List (String × β)}
    (h : l.Pairwise (fun a b => a.1 < b.1)) :
    (insertEntry key value l).Pairwise (fun a b => a.1 < b.1) := by
  induction l with
  | nil => simp [insertEntry]
  | cons a rest ih =>
    obtain ⟨ha, hrest⟩ := List.pairwise_cons.1 h
    simp only [insertEntry]
    split
    · rename_i hlt
      refine List.pairwise_cons.2 ⟨fun e he => ?_, h⟩
      cases List.mem_cons.1 he with
      | inl he => exact he ▸ hlt
      | inr he => exact String.lt_trans hlt (ha e he)
    · rename_i hnlt
      split
      · rename_i heq
        exact List.pairwise_cons.2 ⟨fun e he => by simpa [heq] using ha e he, hrest⟩
      · rename_i hne
        refine List.pairwise_cons.2 ⟨fun e he => ?_, ih hrest⟩
        cases mem_insertEntry he with
        | inl he =>
          subst he
          have hle : a.1 ≤ key := String.not_lt.1 hnlt
          exact String.not_le.1 fun hge => hne (String.le_antisymm hge hle)
        | inr he => exact ha e he

-- The last value given to a key is the one kept.
def insert (m : Keyed β) (key : String) (value : β) : Keyed β :=
  ⟨insertEntry key value m.entries, increasing_insertEntry key value m.increasing⟩

def erase (m : Keyed β) (key : String) : Keyed β :=
  ⟨m.entries.filter (fun e => e.1 != key), m.increasing.filter _⟩

def ofList (l : List (String × β)) : Keyed β :=
  l.foldl (fun m e => m.insert e.1 e.2) empty

-- Replaces the value at a key that is there; leaves a map without it as it is.
def modify (m : Keyed β) (key : String) (f : β → β) : Keyed β :=
  match m.find? key with
  | some value => m.insert key (f value)
  | none => m

@[simp] theorem toList_empty : (empty : Keyed β).toList = [] := rfl

theorem ext {m n : Keyed β} (h : m.toList = n.toList) : m = n := by
  cases m; cases n; cases h; rfl

end Keyed

end MetricRelay
