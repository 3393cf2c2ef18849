import LogIntake.Entry.Line
import LogIntake.Proofs.Text.Blank
import Mathlib.Logic.Basic

/-!
# The lines of a body

A body is read line by line, and what one line comes to has nothing to do with the others. A line
that is not blank is either an entry or a fault, which is what it would be alone under its number
(`Reading.LineByLine`). So two bodies with a newline between them are read like the one and then
the other, whose lines come after those of the first (`Reading.append`, `Reading.shift`), and
carriage returns at the ends of lines do not count.

The number of a line is nothing but a name: it stands in the faults of the line, and decides
nothing (`Entry.ofLine_add`).
-/

namespace LogIntake

/-! ### Faults of lines -/

namespace Fault

/-- A fault of a line, as it is for the line that is `n` lines further down. -/
def shift (n : Nat) : Fault → Fault
  | .malformedLine line detail => .malformedLine (line + n) detail
  | .invalidRecord line detail => .invalidRecord (line + n) detail
  | f => f

end Fault

namespace Entry

variable {α β : Type} {line : Nat}

/-- Only faults of the line's fields come out. -/
def Blames (line : Nat) (r : Except Fault α) : Prop :=
  ∀ f, r = .error f → ∃ detail, f = .invalidRecord line detail

theorem Blames.ok (a : α) : Blames line (.ok a) :=
  nofun

theorem Blames.bind {r : Except Fault α} {f : α → Except Fault β} (h : Blames line r)
    (hf : ∀ a, Blames line (f a)) : Blames line (r >>= f) := by
  cases r with
  | ok a => exact hf a
  | error g => exact fun _ heq => h _ (congrArg _ (Except.error.inj heq))

theorem blames_blame (field : String) (r : Except FieldProblem α) :
    Blames line (blame line field r) := by
  cases r with
  | ok a => exact .ok a
  | error p => exact fun _ heq => ⟨_, (Except.error.inj heq).symm⟩

theorem blame_eq_ok {field : String} {r : Except FieldProblem α} {a : α} :
    blame line field r = .ok a ↔ r = .ok a := by
  cases r <;> simp [blame]

theorem blames_ofDirect (line : Nat) (fields : Json.Fields) : Blames line (ofDirect line fields) :=
  (blames_blame _ _).bind fun _ => (blames_blame _ _).bind fun _ =>
    (blames_blame _ _).bind fun _ => (blames_blame _ _).bind fun _ => .ok _

theorem blames_shippedTime (line : Nat) (fields : Json.Fields) :
    Blames line (shippedTime line fields) := by
  rw [shippedTime]
  split <;> exact blames_blame _ _

theorem blames_ofShipped (line : Nat) (fields : Json.Fields) :
    Blames line (ofShipped line fields) := by
  refine (blames_shippedTime line fields).bind fun _ => (blames_blame _ _).bind fun _ => ?_
  dsimp only
  split
  · exact .ok _
  · exact blames_blame _ _

/-- The fault of an object is one of its fields. -/
theorem blames_ofFields (line : Nat) (fields : Json.Fields) :
    Blames line (ofFields line fields) := by
  rw [ofFields]
  split
  · exact blames_ofDirect line fields
  · split
    · exact blames_ofShipped line fields
    · exact blames_blame _ _

/-- The fault of any other value is that it is no object. -/
theorem ofJson_of_ne_obj {v : Json} (h : ∀ fields, v ≠ .obj fields) :
    ∃ detail, ofJson line v = .error (.malformedLine line detail) := by
  cases v with
  | obj fields => exact absurd rfl (h fields)
  | null | bool _ | int _ | float _ | str _ | arr _ => exact ⟨_, rfl⟩

/-- A line that is no object is malformed. -/
theorem ofLine_of_ne_obj (line : Nat) {bytes : List UInt8}
    (h : ∀ fields, Json.ofBytes? bytes ≠ some (.obj fields)) :
    ∃ detail, ofLine line bytes = .error (.malformedLine line detail) := by
  rw [ofLine]
  split
  · rename_i v hv
    exact ofJson_of_ne_obj fun fields hobj => h fields (hobj ▸ hv)
  · exact ⟨_, rfl⟩

/-- A line that is an object is read by its fields. -/
theorem ofLine_of_obj {bytes : List UInt8} {fields : Json.Fields}
    (h : Json.ofBytes? bytes = some (.obj fields)) : ofLine line bytes = ofFields line fields := by
  rw [ofLine, h]
  rfl

/-- A line that is accepted is an object. -/
theorem exists_fields_of_ofLine {bytes : List UInt8} {e : Entry} (h : ofLine line bytes = .ok e) :
    ∃ fields, Json.ofBytes? bytes = some (.obj fields) := by
  by_contra hnot
  obtain ⟨detail, hline⟩ := ofLine_of_ne_obj line (not_exists.mp hnot)
  cases h.symm.trans hline

/-- The fault of a line is its own. -/
theorem ofLine_eq_error {bytes : List UInt8} {f : Fault} (h : ofLine line bytes = .error f) :
    ∃ detail, f = .malformedLine line detail ∨ f = .invalidRecord line detail := by
  by_cases hobj : ∃ fields, Json.ofBytes? bytes = some (.obj fields)
  · obtain ⟨fields, hfields⟩ := hobj
    rw [ofLine_of_obj hfields] at h
    obtain ⟨detail, rfl⟩ := blames_ofFields line fields f h
    exact ⟨detail, .inr rfl⟩
  · obtain ⟨detail, hline⟩ := ofLine_of_ne_obj line (not_exists.mp hobj)
    exact ⟨detail, .inl (Except.error.inj (h.symm.trans hline))⟩

theorem line?_of_ofLine {bytes : List UInt8} {f : Fault} (h : ofLine line bytes = .error f) :
    f.line? = some line := by
  obtain ⟨detail, rfl | rfl⟩ := ofLine_eq_error h <;> rfl

/-! ### Numbers of lines -/

theorem mapError_bind (g : Fault → Fault) (r : Except Fault α) (f : α → Except Fault β) :
    (r >>= f).mapError g = r.mapError g >>= fun a => (f a).mapError g := by
  cases r <;> rfl

theorem blame_add (line n : Nat) (field : String) (r : Except FieldProblem α) :
    blame (line + n) field r = (blame line field r).mapError (Fault.shift n) := by
  cases r <;> rfl

theorem ofDirect_add (line n : Nat) (fields : Json.Fields) :
    ofDirect (line + n) fields = (ofDirect line fields).mapError (Fault.shift n) := by
  simp only [ofDirect, blame_add, mapError_bind]
  rfl

theorem shippedTime_add (line n : Nat) (fields : Json.Fields) :
    shippedTime (line + n) fields = (shippedTime line fields).mapError (Fault.shift n) := by
  rw [shippedTime, shippedTime]
  split <;> exact blame_add _ _ _ _

theorem ofShipped_add (line n : Nat) (fields : Json.Fields) :
    ofShipped (line + n) fields = (ofShipped line fields).mapError (Fault.shift n) := by
  simp only [ofShipped, blame_add, shippedTime_add, mapError_bind]
  cases shippedSource? fields ((fields.get? "kubernetes").bind Json.fields?) <;> rfl

theorem ofFields_add (line n : Nat) (fields : Json.Fields) :
    ofFields (line + n) fields = (ofFields line fields).mapError (Fault.shift n) := by
  rw [ofFields, ofFields, ofDirect_add, ofShipped_add, blame_add, apply_ite (Except.mapError _),
    apply_ite (Except.mapError _)]

/-- What a line comes to under another number is the same, but for the number. -/
theorem ofLine_add (line n : Nat) (bytes : List UInt8) :
    ofLine (line + n) bytes = (ofLine line bytes).mapError (Fault.shift n) := by
  rw [ofLine, ofLine]
  cases Json.ofBytes? bytes with
  | none => rfl
  | some v =>
    cases v with
    | obj fields => exact ofFields_add line n fields
    | null | bool _ | int _ | float _ | str _ | arr _ => rfl

end Entry

namespace Reading

/-! ### Lines that are not blank -/

/-- The lines that are not blank, numbered from `line` on, each with what it holds. -/
def numbered (line : Nat) (ls : List (List UInt8)) : List (Nat × Except Fault Entry) :=
  (ls.zipIdx line).filterMap fun (l, n) =>
    if (Text.trimAscii l).isEmpty then none else some (n, Entry.ofLine n (Text.trimAscii l))

theorem numbered_cons (line : Nat) (l : List UInt8) (ls : List (List UInt8)) :
    numbered line (l :: ls) =
      if (Text.trimAscii l).isEmpty then numbered (line + 1) ls
      else (line, Entry.ofLine line (Text.trimAscii l)) :: numbered (line + 1) ls := by
  rw [numbered, List.zipIdx_cons, List.filterMap_cons]
  by_cases hblank : (Text.trimAscii l).isEmpty
  · simp only [hblank, if_true]
    rfl
  · simp only [hblank]
    rfl

/-- The lines of a body that are not blank. -/
def lines (body : List UInt8) : List (Nat × Except Fault Entry) :=
  numbered 1 (splitLines body)

/-- The entry of a line. -/
def entry? (l : Nat × Except Fault Entry) : Option (Nat × Entry) :=
  match l.2 with
  | .ok e => some (l.1, e)
  | .error _ => none

/-- The fault of a line that holds no entry. -/
def fault? (l : Nat × Except Fault Entry) : Option (Nat × Fault) :=
  match l.2 with
  | .ok _ => none
  | .error f => some (l.1, f)

/-- The lines that hold an entry. -/
def parsed (ls : List (Nat × Except Fault Entry)) : List (Nat × Entry) :=
  ls.filterMap entry?

/-- The lines that hold none. -/
def unparsable (ls : List (Nat × Except Fault Entry)) : List (Nat × Fault) :=
  ls.filterMap fault?

/-- A body is read line by line. -/
theorem ofLines_eq (line : Nat) (ls : List (List UInt8)) :
    ofLines line ls =
      ⟨parsed (numbered line ls), (unparsable (numbered line ls)).map Prod.snd⟩ := by
  induction ls generalizing line with
  | nil => rfl
  | cons l ls ih =>
    rw [ofLines, ih, numbered_cons]
    split
    · rfl
    · cases hline : Entry.ofLine line (Text.trimAscii l) <;> rfl

/-- Lines are numbered in their order. -/
theorem numbered_pairwise (line : Nat) (ls : List (List UInt8)) :
    ((numbered line ls).map Prod.fst).Pairwise (· < ·) ∧
      ∀ n ∈ (numbered line ls).map Prod.fst, line ≤ n := by
  induction ls generalizing line with
  | nil => exact ⟨.nil, nofun⟩
  | cons l ls ih =>
    obtain ⟨hpairwise, hle⟩ := ih (line + 1)
    rw [numbered_cons]
    split
    · exact ⟨hpairwise, fun n hn => Nat.le_of_succ_le (hle n hn)⟩
    · refine ⟨List.pairwise_cons.mpr ⟨fun n hn => hle n hn, hpairwise⟩, fun n hn => ?_⟩
      rcases List.mem_cons.mp hn with rfl | hn
      · exact Nat.le_refl _
      · exact Nat.le_of_succ_le (hle n hn)

/-- Every line holds an entry, or none. -/
theorem lines_perm (ls : List (Nat × Except Fault Entry)) :
    ((parsed ls).map Prod.fst ++ (unparsable ls).map Prod.fst).Perm (ls.map Prod.fst) := by
  induction ls with
  | nil => exact .nil
  | cons l ls ih =>
    obtain ⟨n, e | f⟩ := l
    · exact List.perm_middle.trans (ih.cons n)
    · exact ih.cons n

/-- The faults of lines name the lines. -/
theorem line?_of_mem_unparsable {line : Nat} {ls : List (List UInt8)} {p : Nat × Fault}
    (h : p ∈ unparsable (numbered line ls)) : p.2.line? = some p.1 := by
  induction ls generalizing line with
  | nil => cases h
  | cons l ls ih =>
    rw [numbered_cons] at h
    split at h
    · exact ih h
    · cases hline : Entry.ofLine line (Text.trimAscii l) with
      | ok e =>
        rw [hline] at h
        exact ih h
      | error f =>
        rw [hline] at h
        rcases List.mem_cons.mp h with rfl | h
        · exact Entry.line?_of_ofLine hline
        · exact ih h

/-- Lines are numbered by their places. -/
theorem mem_numbered {line n : Nat} {ls : List (List UInt8)} {r : Except Fault Entry} :
    (n, r) ∈ numbered line ls ↔ ∃ i raw, n = line + i ∧ ls[i]? = some raw ∧
      Text.trimAscii raw ≠ [] ∧ Entry.ofLine n (Text.trimAscii raw) = r := by
  rw [numbered, List.mem_filterMap]
  constructor
  · rintro ⟨⟨raw, m⟩, hmem, heq⟩
    obtain ⟨hle, hraw⟩ := List.mk_mem_zipIdx_iff_le_and_getElem?_sub.mp hmem
    simp only [Option.ite_none_left_eq_some, List.isEmpty_iff, Option.some.injEq,
      Prod.mk.injEq] at heq
    obtain ⟨hne, rfl, hr⟩ := heq
    exact ⟨m - line, raw, (Nat.add_sub_cancel' hle).symm, hraw, hne, hr⟩
  · rintro ⟨i, raw, rfl, hraw, hne, hr⟩
    refine ⟨(raw, line + i), List.mk_add_mem_zipIdx_iff_getElem?.mpr hraw, ?_⟩
    simp only [Option.ite_none_left_eq_some, List.isEmpty_iff]
    exact ⟨hne, congrArg (fun r => some (line + i, r)) hr⟩

theorem mem_parsed {ls : List (Nat × Except Fault Entry)} {n : Nat} {e : Entry} :
    (n, e) ∈ parsed ls ↔ (n, .ok e) ∈ ls := by
  rw [parsed, List.mem_filterMap]
  constructor
  · rintro ⟨⟨m, r⟩, hmem, heq⟩
    cases r with
    | error f => cases heq
    | ok e' =>
      cases heq
      exact hmem
  · exact fun h => ⟨_, h, rfl⟩

theorem mem_unparsable {ls : List (Nat × Except Fault Entry)} {n : Nat} {f : Fault} :
    (n, f) ∈ unparsable ls ↔ (n, .error f) ∈ ls := by
  rw [unparsable, List.mem_filterMap]
  constructor
  · rintro ⟨⟨m, r⟩, hmem, heq⟩
    cases r with
    | ok e => cases heq
    | error f' =>
      cases heq
      exact hmem
  · exact fun h => ⟨_, h, rfl⟩

/-! ### Splitting -/

/-- A body is split at every newline. -/
theorem splitLines_eq_splitOn (body : List UInt8) : splitLines body = body.splitOn 0x0A := by
  induction body with
  | nil => rfl
  | cons b rest ih =>
    rw [splitLines, List.splitOn_cons_eq_if_modifyHead, ← ih]
    cases hrest : splitLines rest with
    | nil => exact absurd (ih.symm.trans hrest) (List.splitOn_ne_nil _ _)
    | cons l ls => simp only [beq_iff_eq, List.modifyHead_cons]

theorem length_splitLines (body : List UInt8) :
    (splitLines body).length = body.count 0x0A + 1 := by
  induction body with
  | nil => rfl
  | cons b rest ih =>
    rw [splitLines_eq_splitOn] at ih ⊢
    rw [List.splitOn_cons_eq_if_modifyHead, List.count_cons]
    split
    · rw [List.length_cons, ih]
    · rw [List.length_modifyHead, ih]

theorem splitLines_append (a b : List UInt8) :
    splitLines (a ++ 0x0A :: b) = splitLines a ++ splitLines b := by
  simp only [splitLines_eq_splitOn, List.splitOn_append_cons_self]

/-! ### One body after another -/

/-- The reading of lines and of the lines after them. -/
def append (r s : Reading) : Reading :=
  ⟨r.entries ++ s.entries, r.faults ++ s.faults⟩

/-- The reading of the same lines, `n` lines further down. -/
def shift (n : Nat) (r : Reading) : Reading :=
  ⟨r.entries.map fun p => (p.1 + n, p.2), r.faults.map (Fault.shift n)⟩

theorem cons_append (line : Nat) (result : Except Fault Entry) (r s : Reading) :
    (r.cons line result).append s = (r.append s).cons line result := by
  cases result <;> rfl

theorem shift_cons (line n : Nat) (result : Except Fault Entry) (r : Reading) :
    (r.cons line result).shift n =
      (r.shift n).cons (line + n) (result.mapError (Fault.shift n)) := by
  cases result <;> rfl

theorem ofLines_append (line : Nat) (ls ls' : List (List UInt8)) :
    ofLines line (ls ++ ls') = (ofLines line ls).append (ofLines (line + ls.length) ls') := by
  induction ls generalizing line with
  | nil => rfl
  | cons l ls ih =>
    have hnext : line + (l :: ls).length = line + 1 + ls.length := by
      rw [List.length_cons]
      omega
    rw [List.cons_append, ofLines, ofLines, ih, hnext]
    split
    · rfl
    · exact (cons_append _ _ _ _).symm

theorem ofLines_add (line n : Nat) (ls : List (List UInt8)) :
    ofLines (line + n) ls = (ofLines line ls).shift n := by
  induction ls generalizing line with
  | nil => rfl
  | cons l ls ih =>
    rw [ofLines, ofLines, Nat.add_right_comm, ih, Entry.ofLine_add]
    split
    · rfl
    · exact (shift_cons _ _ _ _).symm

theorem ofBody_append (a b : List UInt8) :
    ofBody (a ++ 0x0A :: b) = (ofBody a).append ((ofBody b).shift (1 + a.count 0x0A)) := by
  rw [ofBody, splitLines_append, ofLines_append, length_splitLines, ofLines_add, Nat.add_comm 1]
  rfl

/-! ### Carriage returns -/

/-- A body with a carriage return before each newline. -/
def returned (body : List UInt8) : List UInt8 :=
  body.flatMap fun b => if b = 0x0A then [0x0D, 0x0A] else [b]

theorem splitLines_cons_newline (rest : List UInt8) :
    splitLines (0x0A :: rest) = [] :: splitLines rest := by
  rw [splitLines_eq_splitOn, splitLines_eq_splitOn, List.splitOn_cons_eq_if_modifyHead]
  rfl

theorem splitLines_cons_of_ne {b : UInt8} (h : b ≠ 0x0A) (rest : List UInt8) :
    splitLines (b :: rest) = (splitLines rest).modifyHead (b :: ·) := by
  rw [splitLines_eq_splitOn, splitLines_eq_splitOn, List.splitOn_cons_eq_if_modifyHead, if_neg]
  rwa [beq_iff_eq]

/-- Its lines are those of the body, with or without a carriage return behind them. -/
theorem splitLines_returned (body : List UInt8) :
    List.Forall₂ (fun l l' => l = l' ∨ l = l' ++ [0x0D]) (splitLines (returned body))
      (splitLines body) := by
  induction body with
  | nil => exact .cons (.inl rfl) .nil
  | cons b rest ih =>
    rw [returned, List.flatMap_cons]
    by_cases hb : b = 0x0A
    · subst hb
      rw [if_pos rfl, List.cons_append, List.singleton_append,
        splitLines_cons_of_ne (by decide), splitLines_cons_newline, splitLines_cons_newline]
      exact .cons (.inr rfl) ih
    · rw [if_neg hb, List.singleton_append, splitLines_cons_of_ne hb, splitLines_cons_of_ne hb]
      change List.Forall₂ _ ((splitLines (returned rest)).modifyHead _) _
      generalize splitLines (returned rest) = ls, splitLines rest = ls' at ih ⊢
      cases ih with
      | nil => exact .nil
      | cons hl hls => exact .cons (hl.imp (congrArg (b :: ·)) (congrArg (b :: ·))) hls

/-- What a carriage return is put behind is trimmed to the same. -/
theorem ofLines_congr {ls ls' : List (List UInt8)}
    (h : List.Forall₂ (fun l l' => l = l' ∨ l = l' ++ [0x0D]) ls ls') (line : Nat) :
    ofLines line ls = ofLines line ls' := by
  induction h generalizing line with
  | nil => rfl
  | @cons l l' ls ls' hl _ ih =>
    have htrim : Text.trimAscii l = Text.trimAscii l' := by
      rcases hl with rfl | rfl
      · rfl
      · exact Text.dropAround_concat rfl
    rw [ofLines, ofLines, ih, htrim]

theorem ofBody_returned (body : List UInt8) : ofBody (returned body) = ofBody body :=
  ofLines_congr (splitLines_returned body) 1

/-! ### Line by line -/

/-- The line of a body with a number, without the blanks around it, where it is not blank. -/
def HasLine (body : List UInt8) (n : Nat) (l : List UInt8) : Prop :=
  l ≠ [] ∧ ∃ i raw, n = i + 1 ∧ (body.splitOn 0x0A)[i]? = some raw ∧ Text.trimAscii raw = l

theorem mem_lines {body : List UInt8} {n : Nat} {r : Except Fault Entry} :
    (n, r) ∈ lines body ↔ ∃ l, HasLine body n l ∧ Entry.ofLine n l = r := by
  rw [lines, mem_numbered, splitLines_eq_splitOn]
  constructor
  · rintro ⟨i, raw, rfl, hraw, hne, hr⟩
    exact ⟨_, ⟨hne, i, raw, Nat.add_comm 1 i, hraw, rfl⟩, hr⟩
  · rintro ⟨_, ⟨hne, i, raw, rfl, hraw, rfl⟩, hr⟩
    exact ⟨i, raw, Nat.add_comm i 1, hraw, hne, hr⟩

/-- The reading of a body is the one of its lines, each by itself. -/
structure LineByLine (body : List UInt8) (r : Reading) : Prop where
  /-- The entries are those of the lines that hold one, -/
  entries : ∀ n e, (n, e) ∈ r.entries ↔ ∃ l, HasLine body n l ∧ Entry.ofLine n l = .ok e
  /-- in the order of the lines, -/
  entriesSorted : (r.entries.map Prod.fst).Pairwise (· < ·)
  /-- and the faults are those of the other lines, -/
  faults : ∀ f, f ∈ r.faults ↔ ∃ n l, HasLine body n l ∧ Entry.ofLine n l = .error f
  /-- which they name, -/
  named : ∀ n l f, HasLine body n l → Entry.ofLine n l = .error f →
    ∃ detail, f = .malformedLine n detail ∨ f = .invalidRecord n detail
  /-- in their order. -/
  faultsSorted : (r.faults.filterMap Fault.line?).Pairwise (· < ·)
  /-- A line that is not blank is among the ones or the others, and not among both. -/
  assigned : ∀ n l, HasLine body n l →
    Xor (n ∈ r.entries.map Prod.fst) (n ∈ r.faults.filterMap Fault.line?)

/-- The faults of lines name the lines they stand for. -/
theorem filterMap_line?_unparsable (line : Nat) (ls : List (List UInt8)) :
    ((unparsable (numbered line ls)).map Prod.snd).filterMap Fault.line? =
      (unparsable (numbered line ls)).map Prod.fst := by
  rw [List.filterMap_map, ← List.filterMap_eq_map]
  exact List.filterMap_congr fun p hp => line?_of_mem_unparsable hp

theorem parsed_sublist (ls : List (Nat × Except Fault Entry)) :
    ((parsed ls).map Prod.fst).Sublist (ls.map Prod.fst) := by
  induction ls with
  | nil => exact .slnil
  | cons l ls ih =>
    obtain ⟨n, e | f⟩ := l
    · exact ih.cons n
    · exact ih.cons_cons n

theorem unparsable_sublist (ls : List (Nat × Except Fault Entry)) :
    ((unparsable ls).map Prod.fst).Sublist (ls.map Prod.fst) := by
  induction ls with
  | nil => exact .slnil
  | cons l ls ih =>
    obtain ⟨n, e | f⟩ := l
    · exact ih.cons_cons n
    · exact ih.cons n

theorem lineByLine (body : List UInt8) : LineByLine body (ofBody body) := by
  have hsorted : ((lines body).map Prod.fst).Pairwise (· < ·) :=
    (numbered_pairwise 1 (splitLines body)).1
  have hfaults : (ofBody body).faults.filterMap Fault.line? =
      (unparsable (lines body)).map Prod.fst := by
    rw [ofBody, ofLines_eq]
    exact filterMap_line?_unparsable 1 _
  have hentries : (ofBody body).entries = parsed (lines body) := by
    rw [ofBody, ofLines_eq]
    rfl
  constructor
  case entries =>
    intro n e
    rw [hentries, mem_parsed, mem_lines]
  case entriesSorted =>
    rw [hentries]
    exact hsorted.sublist (parsed_sublist _)
  case faults =>
    intro f
    rw [ofBody, ofLines_eq, List.mem_map]
    constructor
    · rintro ⟨⟨n, g⟩, hmem, rfl⟩
      exact ⟨n, mem_lines.mp (mem_unparsable.mp hmem)⟩
    · rintro ⟨n, hline⟩
      exact ⟨(n, f), mem_unparsable.mpr (mem_lines.mpr hline), rfl⟩
  case named => exact fun n l f _ h => Entry.ofLine_eq_error h
  case faultsSorted =>
    rw [hfaults]
    exact hsorted.sublist (unparsable_sublist _)
  case assigned =>
    intro n l hline
    rw [hentries, hfaults]
    have hmem : (n, Entry.ofLine n l) ∈ lines body := mem_lines.mpr ⟨l, hline, rfl⟩
    -- No line has the number of another one.
    have hnodup := (lines_perm (lines body)).nodup_iff.mpr (hsorted.imp Nat.ne_of_lt)
    have hdisjoint := (List.nodup_append.mp hnodup).2.2
    cases hresult : Entry.ofLine n l with
    | ok e =>
      rw [hresult] at hmem
      have hparsed := List.mem_map_of_mem (f := Prod.fst) (mem_parsed.mpr hmem)
      exact .inl ⟨hparsed, fun h => hdisjoint n hparsed n h rfl⟩
    | error f =>
      rw [hresult] at hmem
      have hunparsable := List.mem_map_of_mem (f := Prod.fst) (mem_unparsable.mpr hmem)
      exact .inr ⟨hunparsable, fun h => hdisjoint n h n hunparsable rfl⟩

/-- **Lines are independent.** A body is read line by line, a body behind another one as if it
stood alone, and carriage returns before the newlines make no difference. -/
theorem independent :
    (∀ body, LineByLine body (ofBody body)) ∧
    (∀ a b, ofBody (a ++ 0x0A :: b) = (ofBody a).append ((ofBody b).shift (1 + a.count 0x0A))) ∧
    ∀ body, ofBody (returned body) = ofBody body :=
  ⟨lineByLine, ofBody_append, ofBody_returned⟩

end Reading

end LogIntake
