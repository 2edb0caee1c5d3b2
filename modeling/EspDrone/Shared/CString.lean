import Mathlib.Data.List.TakeWhile

set_option autoImplicit false

namespace CString

abbrev Bytes := List UInt8

abbrev Memory (n : Nat) := Vector UInt8 n

inductive Fault where
  | outOfBounds (index : Nat)
  | uninitialised (index : Nat)
  deriving DecidableEq, Repr

variable {n : Nat}

def load (mem : Memory n) (i : Nat) : Except Fault UInt8 :=
  if inside : i < n then .ok mem[i] else .error (.outOfBounds i)

def store (mem : Memory n) (i : Nat) (b : UInt8) : Except Fault (Memory n) :=
  if inside : i < n then .ok (mem.set i b) else .error (.outOfBounds i)

def copy (mem : Memory n) (i : Nat) : Bytes → Except Fault (Memory n)
  | [] => .ok mem
  | b :: rest => (store mem i b).bind fun mem => copy mem (i + 1) rest

def skipWhile (p : UInt8 → Bool) (mem : Memory n) (i : Nat) : Except Fault Nat :=
  if inside : i < n then
    if p mem[i] then skipWhile p mem (i + 1) else .ok i
  else .error (.outOfBounds i)
termination_by n - i

def readString (mem : Memory n) (i : Nat) : Except Fault Bytes :=
  (skipWhile (· != 0) mem i).map fun stop => (mem.toList.drop i).take (stop - i)

def inToken (delims : Bytes) (b : UInt8) : Bool :=
  b != 0 && !delims.contains b

structure Token (n : Nat) where
  token : Option Nat
  memory : Memory n
  saved : Option Nat

-- `none` is the null pointer; the caller passes the saved pointer for strtok(NULL, delims).
def strtok (delims : Bytes) (mem : Memory n) : Option Nat → Except Fault (Token n)
  | none => .ok ⟨none, mem, none⟩
  | some i =>
      (skipWhile delims.contains mem i).bind fun start =>
      (load mem start).bind fun first =>
      if first = 0 then .ok ⟨none, mem, none⟩
      else
        (skipWhile (inToken delims) mem start).bind fun stop =>
        (load mem stop).bind fun last =>
        if last = 0 then .ok ⟨some start, mem, none⟩
        else (store mem stop 0).map fun mem => ⟨some start, mem, some (stop + 1)⟩

def StringAt (mem : Memory n) (i : Nat) (s : Bytes) : Prop :=
  0 ∉ s ∧ ∃ tail, mem.toList.drop i = s ++ 0 :: tail

def fields (delims s : Bytes) : List Bytes :=
  (s.splitOnP delims.contains).filter (!·.isEmpty)

theorem drop_cons {mem : Memory n} {i : Nat} {b : UInt8} {rest : Bytes}
    (placed : mem.toList.drop i = b :: rest) :
    ∃ inside : i < n, mem[i] = b ∧ mem.toList.drop (i + 1) = rest := by
  have inside : i < n := by
    have length := congrArg List.length placed
    simp only [List.length_drop, Vector.length_toList, List.length_cons] at length
    omega
  have split := List.drop_eq_getElem_cons (l := mem.toList) (by simpa using inside)
  rw [placed, List.cons.injEq] at split
  exact ⟨inside, by simpa using split.1.symm, split.2.symm⟩

theorem load_eq {mem : Memory n} {i : Nat} {b : UInt8} {rest : Bytes}
    (placed : mem.toList.drop i = b :: rest) : load mem i = .ok b := by
  obtain ⟨inside, value, -⟩ := drop_cons placed
  rw [load, dif_pos inside, value]

theorem skipWhile_eq {p : UInt8 → Bool} {mem : Memory n} {i : Nat} {s rest : Bytes} {b : UInt8}
    (placed : mem.toList.drop i = s ++ b :: rest) (skipped : ∀ c ∈ s, p c = true)
    (stops : p b = false) : skipWhile p mem i = .ok (i + s.length) := by
  induction s generalizing i with
  | nil =>
    obtain ⟨inside, value, -⟩ := drop_cons placed
    rw [skipWhile, dif_pos inside, value]
    simp [stops]
  | cons c s ih =>
    obtain ⟨inside, value, next⟩ := drop_cons placed
    have tail := ih next fun d member => skipped d (List.mem_cons_of_mem _ member)
    rw [skipWhile, dif_pos inside, value, if_pos (skipped c (by simp)), tail]
    congr 1
    simp only [List.length_cons]
    omega

theorem readString_eq {mem : Memory n} {i : Nat} {s : Bytes} (string : StringAt mem i s) :
    readString mem i = .ok s := by
  obtain ⟨noNul, tail, placed⟩ := string
  have stop : skipWhile (· != 0) mem i = .ok (i + s.length) :=
    skipWhile_eq placed (fun c member => by simpa using ne_of_mem_of_not_mem member noNul) (by simp)
  rw [readString, stop, placed]
  simp [Except.map]

-- With nothing to stop at, the scan faults at the end of the memory.
theorem skipWhile_out {p : UInt8 → Bool} {mem : Memory n} {i : Nat} (start : i ≤ n)
    (skipped : ∀ c ∈ mem.toList.drop i, p c = true) :
    skipWhile p mem i = .error (.outOfBounds n) := by
  cases placed : mem.toList.drop i with
  | nil =>
    have past := List.drop_eq_nil_iff.1 placed
    rw [Vector.length_toList] at past
    obtain rfl := Nat.le_antisymm start past
    rw [skipWhile, dif_neg (Nat.lt_irrefl i)]
  | cons c rest =>
    obtain ⟨inside, value, next⟩ := drop_cons placed
    have here : p mem[i] = true := skipped _ (by rw [placed, value]; simp)
    have later : ∀ d ∈ mem.toList.drop (i + 1), p d = true := by
      intro d member
      apply skipped
      rw [placed, ← next]
      exact List.mem_cons_of_mem c member
    rw [skipWhile, dif_pos inside, if_pos here]
    exact skipWhile_out inside later
termination_by n - i

theorem readString_out {mem : Memory n} {i : Nat} (start : i ≤ n)
    (unterminated : 0 ∉ mem.toList.drop i) : readString mem i = .error (.outOfBounds n) := by
  have scan : skipWhile (· != 0) mem i = .error (.outOfBounds n) :=
    skipWhile_out start fun c member => by simpa using ne_of_mem_of_not_mem member unterminated
  rw [readString, scan]
  rfl

theorem copy_eq (mem : Memory n) (i : Nat) (s : Bytes) (room : i + s.length ≤ n) :
    ∃ mem', copy mem i s = .ok mem' ∧
      mem'.toList = mem.toList.take i ++ s ++ mem.toList.drop (i + s.length) := by
  induction s generalizing mem i with
  | nil => exact ⟨mem, rfl, by simp⟩
  | cons b rest ih =>
    rw [List.length_cons] at room
    obtain ⟨mem', copied, layout⟩ := ih (mem.set i b) (i + 1) (by omega)
    have before : (mem.toList.set i b).take (i + 1) = mem.toList.take i ++ [b] := by
      have inside : i < (mem.toList.set i b).length := by
        rw [List.length_set, Vector.length_toList]
        omega
      rw [← List.take_append_getElem inside, List.take_set_of_le (Nat.le_refl i),
        List.getElem_set_self]
    refine ⟨mem', ?_, ?_⟩
    · rw [copy, store, dif_pos (by omega)]
      exact copied
    · rw [layout, Vector.toList_set, before, List.drop_set_of_lt (by omega)]
      simp [Nat.add_comm, Nat.add_left_comm]

-- Whatever a NUL was written after is a string up to its first NUL.
theorem stringAt_takeWhile {mem : Memory n} {i : Nat} {s rest : Bytes}
    (placed : mem.toList.drop i = s ++ 0 :: rest) : StringAt mem i (s.takeWhile (· != 0)) := by
  have clean : 0 ∉ s.takeWhile (· != 0) := fun member => by
    simpa using List.mem_takeWhile_imp member
  refine ⟨clean, ?_⟩
  have split : s.takeWhile (· != 0) ++ s.dropWhile (· != 0) = s :=
    List.takeWhile_append_dropWhile
  have head := List.head?_dropWhile_not (· != 0) s
  cases after : s.dropWhile (· != 0) with
  | nil =>
    rw [after, List.append_nil] at split
    exact ⟨rest, by rw [split, placed]⟩
  | cons c more =>
    rw [after] at head split
    obtain rfl : c = 0 := by simpa using head
    refine ⟨more ++ 0 :: rest, ?_⟩
    calc mem.toList.drop i = (s.takeWhile (· != 0) ++ 0 :: more) ++ 0 :: rest := by
          rw [split, placed]
      _ = s.takeWhile (· != 0) ++ 0 :: (more ++ 0 :: rest) := by simp

theorem stringAt_of_mem {mem : Memory n} {i : Nat} {s tail : Bytes}
    (placed : mem.toList.drop i = s ++ tail) (nul : 0 ∈ tail) :
    ∃ more, StringAt mem i ((s ++ more).takeWhile (· != 0)) := by
  obtain ⟨more, rest, rfl⟩ := List.append_of_mem nul
  exact ⟨more, stringAt_takeWhile (placed.trans (List.append_assoc s more (0 :: rest)).symm)⟩

theorem drop_add {mem : Memory n} {i : Nat} {s rest : Bytes}
    (placed : mem.toList.drop i = s ++ rest) : mem.toList.drop (i + s.length) = rest := by
  rw [← List.drop_drop, placed, List.drop_left]

-- A delimiter turned into a NUL ends the string before it and leaves the one after it.
theorem store_splits {mem : Memory n} {i : Nat} {s rest : Bytes} {b : UInt8}
    (placed : mem.toList.drop i = s ++ b :: rest) :
    ∃ mem', store mem (i + s.length) 0 = .ok mem' ∧ mem'.toList.drop i = s ++ 0 :: rest ∧
      mem'.toList.drop (i + s.length + 1) = rest := by
  obtain ⟨inside, -, next⟩ := drop_cons (drop_add placed)
  refine ⟨mem.set (i + s.length) 0, by rw [store, dif_pos inside], ?_, ?_⟩
  · rw [Vector.toList_set, List.drop_set, if_neg (by omega), placed]
    simp
  · rw [Vector.toList_set, List.drop_set_of_lt (by omega), next]

theorem not_mem_of_splitOn {s : Bytes} {b d : UInt8} (differ : b ≠ d)
    (clean : ∀ field ∈ s.splitOn d, b ∉ field) : b ∉ s := by
  induction s with
  | nil => simp
  | cons c s ih =>
    rw [List.splitOn_cons_eq_if_modifyHead] at clean
    by_cases delim : c = d
    · rw [if_pos (by simpa using delim)] at clean
      have rest := ih fun field member => clean field (List.mem_cons_of_mem _ member)
      simp [rest, delim, differ]
    · rw [if_neg (by simpa using delim)] at clean
      obtain ⟨first, later, split⟩ := List.exists_cons_of_ne_nil (List.splitOn_ne_nil d s)
      rw [split, List.modifyHead_cons] at clean
      have head : b ∉ c :: first := clean _ (by simp)
      rw [List.mem_cons, not_or] at head
      have rest : b ∉ s := by
        apply ih
        rw [split]
        intro field member
        rcases List.mem_cons.1 member with rfl | member
        · exact head.2
        · exact clean field (List.mem_cons_of_mem _ member)
      simp [head.1, rest]

theorem fields_delim {delims : Bytes} {d : UInt8} (delim : delims.contains d = true) (s : Bytes) :
    fields delims (d :: s) = fields delims s := by
  rw [fields, List.splitOnP_cons_eq_if_modifyHead, if_pos delim]
  rfl

theorem fields_nil (delims : Bytes) : fields delims [] = [] := rfl

theorem fields_leading {delims lead s : Bytes} (skipped : ∀ c ∈ lead, delims.contains c = true) :
    fields delims (lead ++ s) = fields delims s := by
  induction lead with
  | nil => rfl
  | cons c lead ih =>
    rw [List.cons_append, fields_delim (skipped c (by simp)),
      ih fun d member => skipped d (List.mem_cons_of_mem _ member)]

theorem fields_last {delims token : Bytes} (nonempty : token ≠ [])
    (plain : ∀ c ∈ token, delims.contains c = false) : fields delims token = [token] := by
  rw [fields, List.splitOnP_eq_singleton plain]
  simp [nonempty]

theorem fields_token {delims token rest : Bytes} {d : UInt8} (nonempty : token ≠ [])
    (plain : ∀ c ∈ token, delims.contains c = false) (delim : delims.contains d = true) :
    fields delims (token ++ d :: rest) = token :: fields delims rest := by
  rw [fields, List.splitOnP_append_cons_of_forall_mem plain d delim]
  simp [nonempty, fields]

def SavedAt (mem : Memory n) (saved : Option Nat) (s : Bytes) : Prop :=
  match saved with
  | none => s = []
  | some i => StringAt mem i s

def Token.Pending (delims : Bytes) (t : Token n) (pending : List Bytes) : Prop :=
  match t.token with
  | none => pending = []
  | some i => ∃ field rest, pending = field :: fields delims rest ∧
      StringAt t.memory i field ∧ SavedAt t.memory t.saved rest

theorem Token.pending_nil {delims : Bytes} {t : Token n} (ended : t.Pending delims []) :
    t.token = none := by
  unfold Token.Pending at ended
  split at ended
  next none => exact none
  next =>
    obtain ⟨field, rest, impossible, -⟩ := ended
    cases impossible

theorem Token.pending_cons {delims field : Bytes} {later : List Bytes} {t : Token n}
    (next : t.Pending delims (field :: later)) :
    ∃ start rest, t.token = some start ∧ later = fields delims rest ∧
      StringAt t.memory start field ∧ SavedAt t.memory t.saved rest := by
  unfold Token.Pending at next
  split at next
  next => cases next
  next start token =>
    obtain ⟨_, rest, same, string, saved⟩ := next
    obtain ⟨rfl, rfl⟩ := List.cons.inj same
    exact ⟨start, rest, token, rfl, string, saved⟩

theorem split_while (p : UInt8 → Bool) (s : Bytes) :
    ∃ lead body, s = lead ++ body ∧ (∀ c ∈ lead, p c = true) ∧
      ∀ b rest, body = b :: rest → p b = false := by
  refine ⟨s.takeWhile p, s.dropWhile p, List.takeWhile_append_dropWhile.symm,
    fun c member => List.mem_takeWhile_imp member, ?_⟩
  intro b rest same
  have head := List.head?_dropWhile_not p s
  rw [same] at head
  simpa using head

-- From a byte that starts a token, the token ends at the NUL or at a delimiter.
theorem split_token {delims body : Bytes} {first : UInt8} (clean : 0 ∉ first :: body)
    (starts : delims.contains first = false) :
    ∃ token after, first :: body = token ++ after ∧ token ≠ [] ∧
      (∀ c ∈ token, c ≠ 0 ∧ delims.contains c = false) ∧
      ∀ d rest, after = d :: rest → delims.contains d = true := by
  obtain ⟨token, after, split, plain, stops⟩ :=
    split_while (inToken delims) (first :: body)
  have inside (c : UInt8) (member : c ∈ token ++ after) : c ≠ 0 :=
    ne_of_mem_of_not_mem (split ▸ member) clean
  refine ⟨token, after, split, ?_, ?_, ?_⟩
  · rintro rfl
    have blocked := stops first body split.symm
    have nonzero : first ≠ 0 := inside first (by simp [← split])
    simp only [inToken, starts, Bool.not_false, Bool.and_true, bne_eq_false_iff_eq] at blocked
    exact nonzero blocked
  · intro c member
    simpa [inToken] using plain c member
  · rintro d rest rfl
    have blocked := stops d rest rfl
    have nonzero : d ≠ 0 := inside d (by simp)
    simpa [inToken, nonzero] using blocked

theorem strtok_token {delims : Bytes} {mem : Memory n} {i : Nat}
    {lead token after tail : Bytes}
    (placed : mem.toList.drop i = lead ++ (token ++ (after ++ 0 :: tail)))
    (leading : ∀ c ∈ lead, delims.contains c = true) (nonempty : token ≠ [])
    (plain : ∀ c ∈ token, c ≠ 0 ∧ delims.contains c = false)
    (ends : ∀ d rest, after = d :: rest → d ≠ 0 ∧ delims.contains d = true) (clean : 0 ∉ after) :
    ∃ t, strtok delims mem (some i) = .ok t ∧
      t.Pending delims (fields delims (token ++ after)) := by
  match token, nonempty with
  | first :: token, nonempty =>
    obtain ⟨firstNonzero, firstPlain⟩ := plain first (by simp)
    have start := skipWhile_eq placed leading firstPlain
    have atStart := drop_add placed
    have found := load_eq atStart
    have within : ∀ c ∈ first :: token, inToken delims c = true := by
      simpa [inToken] using plain
    have tokenClean : 0 ∉ first :: token := fun member => (plain 0 member).1 rfl
    have tokenPlain := fun c member => (plain c member).2
    match after, ends with
    | [], _ =>
      have stop := skipWhile_eq atStart within (show inToken delims 0 = false from rfl)
      have last := load_eq (drop_add atStart)
      refine ⟨⟨some (i + lead.length), mem, none⟩, ?_, first :: token, [], ?_, ?_, rfl⟩
      · simp only [strtok, start, found, firstNonzero, stop, last, Except.bind, if_true, if_false]
      · rw [List.append_nil, fields_last nonempty tokenPlain, fields_nil]
      · exact ⟨tokenClean, tail, atStart⟩
    | d :: more, ends =>
      obtain ⟨nonzero, delim⟩ := ends d more rfl
      have stop := skipWhile_eq atStart within (show inToken delims d = false by
        rw [inToken, delim, Bool.not_true, Bool.and_false])
      have last := load_eq (drop_add atStart)
      obtain ⟨mem', stored, before, rest⟩ := store_splits atStart
      refine ⟨⟨some (i + lead.length), mem', some (i + lead.length + (first :: token).length + 1)⟩,
        ?_, first :: token, more, fields_token nonempty tokenPlain delim, ?_, ?_⟩
      · simp only [strtok, start, found, firstNonzero, stop, last, nonzero, stored, Except.bind,
          Except.map, if_false]
      · exact ⟨tokenClean, _, before⟩
      · exact ⟨fun member => clean (List.mem_cons_of_mem _ member), tail, rest⟩

/-- `strtok` returns the first of the fields still to come and keeps the others. -/
theorem strtok_spec {delims : Bytes} (noNul : delims.contains 0 = false) {mem : Memory n}
    {saved : Option Nat} {s : Bytes} (savedAt : SavedAt mem saved s) :
    ∃ t, strtok delims mem saved = .ok t ∧ t.Pending delims (fields delims s) := by
  match saved, savedAt with
  | none, empty =>
    obtain rfl : s = [] := empty
    exact ⟨⟨none, mem, none⟩, rfl, fields_nil delims⟩
  | some i, ⟨clean, tail, placed⟩ =>
    obtain ⟨lead, body, rfl, leading, starts⟩ := split_while delims.contains s
    rw [List.append_assoc] at placed
    rw [fields_leading leading]
    match body, starts with
    | [], _ =>
      have start := skipWhile_eq placed leading noNul
      have found := load_eq (drop_add placed)
      refine ⟨⟨none, mem, none⟩, ?_, fields_nil delims⟩
      simp [strtok, start, found, Except.bind]
    | first :: body, starts =>
      have bodyClean : 0 ∉ first :: body := fun member => clean (List.mem_append_right _ member)
      obtain ⟨token, after, split, nonempty, plain, ends⟩ :=
        split_token bodyClean (starts first body rfl)
      rw [split] at placed bodyClean ⊢
      rw [List.append_assoc] at placed
      have afterClean : 0 ∉ after := fun member => bodyClean (List.mem_append_right _ member)
      refine strtok_token placed leading nonempty plain ?_ afterClean
      rintro d rest rfl
      exact ⟨ne_of_mem_of_not_mem (by simp) afterClean, ends d rest rfl⟩

end CString
