import Mathlib.Tactic

/-! Files by path, with the operations that a system carries out one by one. What
writes a file can be stopped between any two of them. -/
namespace Files

variable {π β : Type}

/-- The bytes of each file that is there. -/
abbrev Store (π β : Type) := π → Option (List β)

/-- What a process asks of the file system. A rename replaces its target. -/
inductive Op (π β : Type) where
  | create (path : π)
  | append (path : π) (piece : List β)
  | rename (source target : π)
deriving DecidableEq

/-- The operation does not touch the path. -/
def Op.Spares (path : π) : Op π β → Prop
  | .create other => path ≠ other
  | .append other _ => path ≠ other
  | .rename source target => path ≠ source ∧ path ≠ target

/-- A new file is empty, also in the place of an old one. -/
def Op.apply [DecidableEq π] (store : Store π β) : Op π β → Store π β
  | .create path => Function.update store path (some [])
  | .append path piece => Function.update store path (some ((store path).getD [] ++ piece))
  | .rename source target =>
      Function.update (Function.update store source none) target (store source)

/-- `write`, in the pieces that its calls happen to take. -/
def write (path : π) (pieces : List (List β)) : List (Op π β) :=
  .create path :: pieces.map (.append path)

/-- The file is written under another name and then takes the place of the old one. -/
def replace (scratch path : π) (pieces : List (List β)) : List (Op π β) :=
  write scratch pieces ++ [.rename scratch path]

variable {store : Store π β} {path scratch : π} {op : Op π β} {ops : List (Op π β)}
  {bytes : List β} {pieces : List (List β)}

theorem Op.Spares.apply [DecidableEq π] (h : op.Spares path) : op.apply store path = store path := by
  cases op with
  | create other => exact Function.update_of_ne h _ _
  | append other piece => exact Function.update_of_ne h _ _
  | rename source target =>
      rw [Op.apply, Function.update_of_ne h.2, Function.update_of_ne h.1]

theorem write_spares {other : π} (h : path ≠ other) :
    ∀ op ∈ write other pieces, op.Spares path := by
  intro op hMem
  rcases List.mem_cons.mp hMem with rfl | hMem
  · exact h
  · obtain ⟨piece, -, rfl⟩ := List.mem_map.mp hMem
    exact h

/-- What is left of a `write` makes the file hold the bytes. -/
inductive Writing (path : π) (bytes : List β) (store : Store π β) : List (Op π β) → Prop where
  | all (pieces : List (List β)) (whole : pieces.flatten = bytes) :
      Writing path bytes store (write path pieces)
  | rest (written : List β) (pieces : List (List β)) (now : store path = some written)
      (whole : written ++ pieces.flatten = bytes) :
      Writing path bytes store (pieces.map (.append path))

/-- One operation of a `write`. In between the file holds the first part of the bytes. -/
theorem Writing.step [DecidableEq π] (h : Writing path bytes store (op :: ops)) :
    Writing path bytes (op.apply store) ops ∧
      ∃ written, op.apply store path = some written ∧ written <+: bytes := by
  generalize hAll : op :: ops = all at h
  cases h with
  | all pieces whole =>
      cases hAll
      have hNow : (Op.create path).apply store path = some [] := Function.update_self _ _ _
      exact ⟨.rest [] pieces hNow whole, [], hNow, List.nil_prefix⟩
  | rest written pieces now whole =>
      cases pieces with
      | nil => cases hAll
      | cons piece pieces =>
          cases hAll
          have hNow : (Op.append path piece).apply store path = some (written ++ piece) := by
            rw [Op.apply, now]
            exact Function.update_self _ _ _
          have hWhole : written ++ piece ++ pieces.flatten = bytes := by
            rw [List.append_assoc, ← List.flatten_cons, whole]
          exact ⟨.rest _ pieces hNow hWhole, _, hNow, pieces.flatten, hWhole⟩

/-- Nothing is left. -/
theorem Writing.done (h : Writing path bytes store []) : store path = some bytes := by
  generalize hAll : ([] : List (Op π β)) = all at h
  cases h with
  | all pieces whole => cases hAll
  | rest written pieces now whole =>
      cases List.map_eq_nil_iff.mp hAll.symm
      rw [now, ← whole, List.flatten_nil, List.append_nil]

/-- The operations that are left of a write touch no other path. -/
theorem Writing.mem_spares {other : π} (h : Writing path bytes store ops) (hNe : other ≠ path) :
    ∀ op ∈ ops, op.Spares other := by
  intro op hMem
  cases h with
  | all pieces whole => exact write_spares hNe op hMem
  | rest written pieces now whole =>
      obtain ⟨piece, -, rfl⟩ := List.mem_map.mp hMem
      exact hNe

/-- Operations on other files do not get in the way. -/
theorem Writing.frame {store' : Store π β} (h : Writing path bytes store ops)
    (hSame : store' path = store path) : Writing path bytes store' ops := by
  cases h with
  | all pieces whole => exact .all pieces whole
  | rest written pieces now whole => exact .rest written pieces (hSame.trans now) whole

/-- What is left of a `replace`. -/
def Replacing (scratch path : π) (bytes : List β) (store : Store π β) (ops : List (Op π β)) :
    Prop :=
  ∃ rest, ops = rest ++ [.rename scratch path] ∧ Writing scratch bytes store rest

theorem replacing_replace (scratch path : π) (store : Store π β) (pieces : List (List β)) :
    Replacing scratch path pieces.flatten store (replace scratch path pieces) :=
  ⟨write scratch pieces, rfl, .all pieces rfl⟩

/-- The last operation puts the bytes in their place, all others leave the file alone. -/
theorem Replacing.step [DecidableEq π] (h : Replacing scratch path bytes store (op :: ops))
    (hNe : path ≠ scratch) :
    (ops = [] ∧ op.apply store path = some bytes) ∨
      (Replacing scratch path bytes (op.apply store) ops ∧ op.apply store path = store path) := by
  obtain ⟨rest, hOps, hWriting⟩ := h
  cases rest with
  | nil =>
      cases hOps
      refine .inl ⟨rfl, ?_⟩
      rw [Op.apply, Function.update_self, hWriting.done]
  | cons first rest =>
      cases hOps
      exact .inr ⟨⟨rest, rfl, hWriting.step.1⟩,
        (hWriting.mem_spares hNe _ List.mem_cons_self).apply⟩

theorem Replacing.frame {store' : Store π β} (h : Replacing scratch path bytes store ops)
    (hSame : store' scratch = store scratch) : Replacing scratch path bytes store' ops := by
  obtain ⟨rest, hOps, hWriting⟩ := h
  exact ⟨rest, hOps, hWriting.frame hSame⟩

/-- Nor do those of a replacement, apart from the scratch file. -/
theorem Replacing.mem_spares {other : π} (h : Replacing scratch path bytes store ops)
    (hScratch : other ≠ scratch) (hPath : other ≠ path) : ∀ op ∈ ops, op.Spares other := by
  intro op hMem
  obtain ⟨rest, rfl, hWriting⟩ := h
  rcases List.mem_append.mp hMem with hRest | hLast
  · exact hWriting.mem_spares hScratch op hRest
  · cases List.mem_singleton.mp hLast
    exact ⟨hScratch, hPath⟩

theorem Replacing.ne_nil (h : Replacing scratch path bytes store ops) : ops ≠ [] := by
  obtain ⟨rest, rfl, -⟩ := h
  simp

end Files
