import Mathlib.Tactic.IntervalCases
import Newsfeed.Proofs.Json.Tokens

/-!
# What is written is read back

`ReadsAs cs v` says that the text `cs` is read as the value `v` wherever it stands, and `ReadsItems`
and `ReadsFields` say the like of what stands in brackets.  They hold of longer texts when they hold
of their parts, whatever white space stands between these, and so of the compact and of the indented
form of every value without foreign parts (`Plain`).
-/

namespace Newsfeed.Json

/-! ## White space -/

theorem skipSpace_cons {c : Char} (h : isSpace c = false) (cs : List Char) :
    skipSpace (c :: cs) = c :: cs := List.dropWhile_cons_of_neg (Bool.eq_false_iff.1 h)

section Space

variable {ws : List Char} (h : ∀ c ∈ ws, isSpace c = true)

include h

theorem skipSpace_append (cs : List Char) : skipSpace (ws ++ cs) = skipSpace cs :=
  List.dropWhile_append_of_pos h

theorem ends_append {cs : List Char} (hcs : Ends cs) : Ends (ws ++ cs) := by
  cases ws with
  | nil => exact hcs
  | cons c ws =>
    have hc : isSpace c = true := h c List.mem_cons_self
    simp only [isSpace, Bool.or_eq_true, decide_eq_true_eq] at hc
    rcases hc with ((rfl | rfl) | rfl) | rfl
    all_goals exact ends_cons rfl (by decide)

theorem readValue_append (fuel : Nat) (cs : List Char) :
    readValue fuel (ws ++ cs) = readValue fuel cs := by
  cases fuel with
  | zero => rfl
  | succ fuel => simp only [readValue, skipSpace_append h]

theorem readItems_append (fuel : Nat) (cs : List Char) :
    readItems fuel (ws ++ cs) = readItems fuel cs := by
  cases fuel with
  | zero => rfl
  | succ fuel => simp only [readItems, readValue_append h]

theorem readFields_append (fuel : Nat) (cs : List Char) :
    readFields fuel (ws ++ cs) = readFields fuel cs := by
  cases fuel with
  | zero => rfl
  | succ fuel => simp only [readFields, skipSpace_append h]

end Space

theorem exists_append_skipSpace_eq (cs : List Char) :
    ∃ ws, (∀ c ∈ ws, isSpace c = true) ∧ ws ++ skipSpace cs = cs :=
  ⟨cs.takeWhile isSpace, List.all_eq_true.1 List.all_takeWhile, List.takeWhile_append_dropWhile⟩

theorem readItems_skipSpace (fuel : Nat) (cs : List Char) :
    readItems fuel (skipSpace cs) = readItems fuel cs := by
  obtain ⟨ws, hws, hsplit⟩ := exists_append_skipSpace_eq cs
  rw [← readItems_append hws fuel (skipSpace cs), hsplit]

theorem readFields_skipSpace (fuel : Nat) (cs : List Char) :
    readFields fuel (skipSpace cs) = readFields fuel cs := by
  obtain ⟨ws, hws, hsplit⟩ := exists_append_skipSpace_eq cs
  rw [← readFields_append hws fuel (skipSpace cs), hsplit]

/-! ## Texts that are read -/

/-- A text is read as a value, with no more calls in each other than it has characters and one. -/
def ReadsAs (cs : List Char) (v : Json) : Prop :=
  ∀ fuel rest, cs.length < fuel → Ends rest → readValue fuel (cs ++ rest) = some (v, rest)

/-- A text is read as the items of an array, up to its end. -/
def ReadsItems (cs : List Char) (vs : List Json) : Prop :=
  ∀ fuel rest, cs.length + 1 < fuel → readItems fuel (cs ++ ']' :: rest) = some (vs, rest)

/-- A text is read as the fields of an object, up to its end. -/
def ReadsFields (cs : List Char) (fields : List (String × Json)) : Prop :=
  ∀ fuel rest, cs.length + 1 < fuel →
    readFields fuel (cs ++ '\x7d' :: rest) = some (object fields, rest)

theorem ReadsAs.of_succ {cs : List Char} {v : Json}
    (h : ∀ fuel rest, cs.length ≤ fuel → Ends rest →
      readValue (fuel + 1) (cs ++ rest) = some (v, rest)) :
    ReadsAs cs v
  | 0, _, hlt, _ => absurd hlt (Nat.not_lt_zero _)
  | fuel + 1, rest, hlt, hrest => h fuel rest (Nat.le_of_lt_succ hlt) hrest

theorem ReadsAs.space {ws cs : List Char} {v : Json} (h : ReadsAs cs v)
    (hws : ∀ c ∈ ws, isSpace c = true) : ReadsAs (ws ++ cs) v := by
  intro fuel rest hlt hrest
  rw [List.append_assoc, readValue_append hws]
  exact h fuel rest (by simp at hlt; omega) hrest

theorem ReadsAs.blank {cs : List Char} {v : Json} (h : ReadsAs cs v) : ReadsAs (' ' :: cs) v := by
  show ReadsAs ([' '] ++ cs) v
  exact h.space (List.forall_mem_singleton.2 rfl)

/-- What is read as a value wherever it stands is so as a text of its own. -/
theorem ReadsAs.read?_ofList {cs : List Char} {v : Json} (h : ReadsAs cs v) :
    read? (String.ofList cs) = some v := by
  have hv := h (2 * cs.length + 2) [] (by omega) ends_nil
  rw [List.append_nil] at hv
  rw [read?, String.toList_ofList]
  show (readValue (2 * cs.length + 2) cs).bind _ = _
  rw [hv]
  rfl

/-! ## Words, numbers and texts -/

theorem readsAs_null : ReadsAs "null".toList null := .of_succ fun _ _ _ _ => rfl

theorem readsAs_bool (b : Bool) : ReadsAs (if b then "true" else "false").toList (bool b) := by
  refine .of_succ fun _ _ _ _ => ?_
  cases b <;> rfl

theorem readValue_digitChar {d : Nat} (hd : d < 10) (fuel : Nat) (cs : List Char) :
    readValue (fuel + 1) (Nat.digitChar d :: cs) = readNumber false (Nat.digitChar d :: cs) := by
  interval_cases d <;> rfl

theorem readsAs_writeInt (n : Int) : ReadsAs (Numeral.writeInt n) (int n) := by
  refine .of_succ fun fuel rest _ hrest => ?_
  cases n with
  | ofNat n =>
    obtain ⟨d, cs, hwrite, hd, -⟩ := Numeral.exists_write_eq_cons n
    have hvalue : readValue (fuel + 1) (Numeral.write n ++ rest) =
        readNumber false (Numeral.write n ++ rest) := by
      rw [hwrite]
      exact readValue_digitChar hd fuel _
    exact hvalue.trans (readNumber_write nofun hrest)
  | negSucc n => exact readNumber_write (fun _ => Nat.succ_ne_zero n) hrest

theorem writeText_append (s : String) (cs rest : List Char) :
    writeText s cs ++ rest = '"' :: (s.toList.flatMap writeChar ++ '"' :: (cs ++ rest)) := by
  simp [writeText]

theorem readsAs_writeText (s : String) : ReadsAs (writeText s []) (string s) := by
  refine .of_succ fun fuel rest _ _ => ?_
  rw [writeText_append, readValue, skipSpace_cons rfl]
  simp [readText_flatMap_writeChar]

/-! ## Arrays -/

section Arrays

variable {cs cs' ws : List Char} {v : Json} {vs : List Json}

theorem readsAs_array_nil : ReadsAs "[]".toList (array []) := .of_succ fun _ _ _ _ => rfl

theorem ReadsAs.readsItems (h : ReadsAs cs v) (hws : ∀ c ∈ ws, isSpace c = true) :
    ReadsItems (cs ++ ws) [v] := by
  intro fuel rest hlt
  obtain ⟨fuel, rfl⟩ := Nat.exists_eq_add_one_of_ne_zero (Nat.ne_zero_of_lt hlt)
  have hv : readValue fuel (cs ++ (ws ++ ']' :: rest)) = some (v, ws ++ ']' :: rest) :=
    h fuel _ (by simp at hlt; omega) (ends_append hws (ends_cons rfl (by decide)))
  have hend : skipSpace (ws ++ ']' :: rest) = ']' :: rest := by
    rw [skipSpace_append hws, skipSpace_cons rfl]
  rw [List.append_assoc, readItems]
  simp [hv, hend]

theorem ReadsAs.readsItems_cons (h : ReadsAs cs v) (h' : ReadsItems cs' vs) :
    ReadsItems (cs ++ ',' :: cs') (v :: vs) := by
  intro fuel rest hlt
  obtain ⟨fuel, rfl⟩ := Nat.exists_eq_add_one_of_ne_zero (Nat.ne_zero_of_lt hlt)
  simp only [List.length_append, List.length_cons] at hlt
  have hv : readValue fuel (cs ++ ',' :: (cs' ++ ']' :: rest)) =
      some (v, ',' :: (cs' ++ ']' :: rest)) :=
    h fuel _ (by omega) (ends_cons rfl (by decide))
  have hvs := h' fuel rest (by omega)
  rw [List.append_assoc, List.cons_append, readItems]
  simp [hv, hvs, skipSpace_cons (show isSpace ',' = false from rfl)]

theorem readItems_bracket (fuel : Nat) (cs : List Char) : readItems fuel (']' :: cs) = none := by
  rcases fuel with _ | _ | fuel <;> rfl

theorem ReadsItems.readsAs (h : ReadsItems cs vs) : ReadsAs ('[' :: cs ++ [']']) (array vs) := by
  refine .of_succ fun fuel rest hle _ => ?_
  have hvs := h fuel rest (by simp at hle; omega)
  rw [← readItems_skipSpace] at hvs
  -- what stands in the brackets does not begin with their end, so this is no empty array
  have hfirst : ∀ rest', skipSpace (cs ++ ']' :: rest) = ']' :: rest' → False := by
    intro rest' heq
    rw [heq, readItems_bracket] at hvs
    cases hvs
  have harray : '[' :: cs ++ [']'] ++ rest = '[' :: (cs ++ ']' :: rest) := by simp
  rw [harray, readValue, skipSpace_cons rfl]
  simp [hvs]

end Arrays

/-! ## Objects -/

section Objects

variable {cs cs' ws : List Char} {name : String} {v : Json} {fields : List (String × Json)}

theorem readsAs_object_nil : ReadsAs ['\x7b', '\x7d'] (object []) := .of_succ fun _ _ _ _ => rfl

theorem skipSpace_writeText (s : String) (cs : List Char) :
    skipSpace (writeText s cs) = '"' :: (s.toList.flatMap writeChar ++ '"' :: cs) :=
  skipSpace_cons rfl _

theorem ReadsAs.readsFields (h : ReadsAs cs v) (hws : ∀ c ∈ ws, isSpace c = true) :
    ReadsFields (writeText name (':' :: cs) ++ ws) [(name, v)] := by
  intro fuel rest hlt
  obtain ⟨fuel, rfl⟩ := Nat.exists_eq_add_one_of_ne_zero (Nat.ne_zero_of_lt hlt)
  have hv : readValue fuel (cs ++ (ws ++ '\x7d' :: rest)) = some (v, ws ++ '\x7d' :: rest) :=
    h fuel _ (by simp [writeText] at hlt; omega) (ends_append hws (ends_cons rfl (by decide)))
  have hend : skipSpace (ws ++ '\x7d' :: rest) = '\x7d' :: rest := by
    rw [skipSpace_append hws, skipSpace_cons rfl]
  have hfield : writeText name (':' :: cs) ++ ws ++ '\x7d' :: rest =
      writeText name (':' :: (cs ++ (ws ++ '\x7d' :: rest))) := by simp [writeText]
  rw [hfield, readFields, skipSpace_writeText]
  simp [readText_flatMap_writeChar, skipSpace_cons (show isSpace ':' = false from rfl), hv, hend,
    consField]

theorem ReadsAs.readsFields_cons (h : ReadsAs cs v) (h' : ReadsFields cs' fields) :
    ReadsFields (writeText name (':' :: cs) ++ ',' :: cs') ((name, v) :: fields) := by
  intro fuel rest hlt
  obtain ⟨fuel, rfl⟩ := Nat.exists_eq_add_one_of_ne_zero (Nat.ne_zero_of_lt hlt)
  have hv : readValue fuel (cs ++ ',' :: (cs' ++ '\x7d' :: rest)) =
      some (v, ',' :: (cs' ++ '\x7d' :: rest)) :=
    h fuel _ (by simp [writeText] at hlt; omega) (ends_cons rfl (by decide))
  have hfields := h' fuel rest (by simp [writeText] at hlt; omega)
  have hfield : writeText name (':' :: cs) ++ ',' :: cs' ++ '\x7d' :: rest =
      writeText name (':' :: (cs ++ ',' :: (cs' ++ '\x7d' :: rest))) := by simp [writeText]
  rw [hfield, readFields, skipSpace_writeText]
  simp [readText_flatMap_writeChar, skipSpace_cons (show isSpace ':' = false from rfl),
    skipSpace_cons (show isSpace ',' = false from rfl), hv, hfields, consField]

theorem ReadsFields.space (h : ReadsFields cs fields) (hws : ∀ c ∈ ws, isSpace c = true) :
    ReadsFields (ws ++ cs) fields := by
  intro fuel rest hlt
  rw [List.append_assoc, readFields_append hws]
  exact h fuel rest (by simp at hlt; omega)

theorem readFields_brace (fuel : Nat) (cs : List Char) : readFields fuel ('\x7d' :: cs) = none := by
  cases fuel <;> rfl

theorem ReadsFields.readsAs (h : ReadsFields cs fields) :
    ReadsAs ('\x7b' :: cs ++ ['\x7d']) (object fields) := by
  refine .of_succ fun fuel rest hle _ => ?_
  have hfields := h fuel rest (by simp at hle; omega)
  rw [← readFields_skipSpace] at hfields
  have hfirst : ∀ rest', skipSpace (cs ++ '\x7d' :: rest) = '\x7d' :: rest' → False := by
    intro rest' heq
    rw [heq, readFields_brace] at hfields
    cases hfields
  have hobject : '\x7b' :: cs ++ ['\x7d'] ++ rest = '\x7b' :: (cs ++ '\x7d' :: rest) := by simp
  rw [hobject, readValue, skipSpace_cons rfl]
  simp [hfields]

end Objects

/-! ## The compact form -/

/-- A value without foreign parts. -/
inductive Plain : Json → Prop
  | null : Plain null
  | bool (b : Bool) : Plain (bool b)
  | int (n : Int) : Plain (int n)
  | string (s : String) : Plain (string s)
  | array {vs : List Json} (h : ∀ v ∈ vs, Plain v) : Plain (array vs)
  | object {fields : List (String × Json)} (h : ∀ f ∈ fields, Plain f.2) : Plain (object fields)

/-- The compact form of a value is a text that is read as the value. -/
def WritesBack (v : Json) : Prop :=
  ∃ cs, (∀ rest, writeBefore v rest = cs ++ rest) ∧ ReadsAs cs v

theorem exists_writeItems (v : Json) (vs : List Json) (h : ∀ w ∈ v :: vs, WritesBack w) :
    ∃ cs, (∀ rest, writeItems (v :: vs) rest = cs ++ rest) ∧ ReadsItems cs (v :: vs) := by
  induction vs generalizing v with
  | nil =>
    obtain ⟨cs, hwrite, hreads⟩ := h v List.mem_cons_self
    exact ⟨cs ++ [], by simpa [writeItems] using hwrite, hreads.readsItems nofun⟩
  | cons w vs ih =>
    obtain ⟨⟨cs, hwrite, hreads⟩, hvs⟩ := List.forall_mem_cons.1 h
    obtain ⟨items, hitems, hreadsItems⟩ := ih w hvs
    refine ⟨cs ++ ',' :: items, fun rest => ?_, hreads.readsItems_cons hreadsItems⟩
    rw [writeItems, hwrite, hitems]
    simp

theorem exists_writeFields (f : String × Json) (fields : List (String × Json))
    (h : ∀ g ∈ f :: fields, WritesBack g.2) :
    ∃ cs, (∀ rest, writeFields (f :: fields) rest = cs ++ rest) ∧ ReadsFields cs (f :: fields) := by
  induction fields generalizing f with
  | nil =>
    obtain ⟨cs, hwrite, hreads⟩ := h f List.mem_cons_self
    refine ⟨writeText f.1 (':' :: cs) ++ [], fun rest => ?_, hreads.readsFields nofun⟩
    simp [writeFields, hwrite, writeText]
  | cons g fields ih =>
    obtain ⟨⟨cs, hwrite, hreads⟩, hfields⟩ := List.forall_mem_cons.1 h
    obtain ⟨more, hmore, hreadsMore⟩ := ih g hfields
    refine ⟨writeText f.1 (':' :: cs) ++ ',' :: more, fun rest => ?_,
      hreads.readsFields_cons hreadsMore⟩
    rw [writeFields, hwrite, hmore]
    simp [writeText]

theorem Plain.writesBack {v : Json} (h : v.Plain) : v.WritesBack := by
  induction h with
  | null => exact ⟨"null".toList, fun _ => rfl, readsAs_null⟩
  | bool b => exact ⟨_, fun _ => by cases b <;> rfl, readsAs_bool b⟩
  | int n => exact ⟨Numeral.writeInt n, fun _ => rfl, readsAs_writeInt n⟩
  | string s =>
    exact ⟨writeText s [], fun rest => (writeText_append s [] rest).symm, readsAs_writeText s⟩
  | @array vs _ ih =>
    cases vs with
    | nil => exact ⟨"[]".toList, fun _ => rfl, readsAs_array_nil⟩
    | cons v vs =>
      obtain ⟨cs, hwrite, hreads⟩ := exists_writeItems v vs ih
      refine ⟨'[' :: cs ++ [']'], fun rest => ?_, hreads.readsAs⟩
      show '[' :: writeItems (v :: vs) (']' :: rest) = _
      simp [hwrite]
  | @object fields _ ih =>
    cases fields with
    | nil => exact ⟨['\x7b', '\x7d'], fun _ => rfl, readsAs_object_nil⟩
    | cons f fields =>
      obtain ⟨cs, hwrite, hreads⟩ := exists_writeFields f fields ih
      refine ⟨'\x7b' :: cs ++ ['\x7d'], fun rest => ?_, hreads.readsAs⟩
      show '\x7b' :: writeFields (f :: fields) ('\x7d' :: rest) = _
      simp [hwrite]

theorem Plain.readsAs_writeBefore {v : Json} (h : v.Plain) : ReadsAs (writeBefore v []) v := by
  obtain ⟨cs, hwrite, hreads⟩ := h.writesBack
  rw [hwrite, List.append_nil]
  exact hreads

/-- A plain value is read back from its compact form. -/
theorem Plain.read?_write {v : Json} (h : v.Plain) : read? v.write = some v :=
  h.readsAs_writeBefore.read?_ofList

/-! ## The form with one item a line -/

theorem isSpace_newLine (depth : Nat) : ∀ c ∈ newLine depth, isSpace c = true := by
  refine List.forall_mem_cons.2 ⟨rfl, fun c hc => ?_⟩
  rw [List.eq_of_mem_replicate hc]
  rfl

theorem exists_writeMoreItems (depth : Nat) (vs : List Json)
    (h : ∀ w ∈ vs, ∀ depth, ReadsAs (writeAt depth w) w) :
    ∃ cs, writeMoreItems depth vs = cs ++ [']'] ∧
      ∀ first v, ReadsAs first v → ReadsItems (first ++ cs) (v :: vs) := by
  induction vs with
  | nil => exact ⟨newLine depth, rfl, fun _ _ hfirst => hfirst.readsItems (isSpace_newLine depth)⟩
  | cons w vs ih =>
    obtain ⟨hw, hvs⟩ := List.forall_mem_cons.1 h
    obtain ⟨cs, hwrite, hreads⟩ := ih hvs
    refine ⟨',' :: (newLine (depth + 1) ++ writeAt (depth + 1) w ++ cs), ?_, fun _ _ hfirst => ?_⟩
    · rw [writeMoreItems, hwrite]
      simp
    · exact hfirst.readsItems_cons (hreads _ w ((hw (depth + 1)).space (isSpace_newLine _)))

theorem exists_writeMoreFields (depth : Nat) (fields : List (String × Json))
    (h : ∀ f ∈ fields, ∀ depth, ReadsAs (writeAt depth f.2) f.2) :
    ∃ cs, writeMoreFields depth fields = cs ++ ['\x7d'] ∧ ∀ name first v, ReadsAs first v →
      ReadsFields (writeText name (':' :: first) ++ cs) ((name, v) :: fields) := by
  induction fields with
  | nil =>
    exact ⟨newLine depth, rfl, fun _ _ _ hfirst => hfirst.readsFields (isSpace_newLine depth)⟩
  | cons f fields ih =>
    obtain ⟨hf, hfields⟩ := List.forall_mem_cons.1 h
    obtain ⟨cs, hwrite, hreads⟩ := ih hfields
    refine ⟨',' :: (newLine (depth + 1) ++
      (writeText f.1 (':' :: ' ' :: writeAt (depth + 1) f.2) ++ cs)), ?_, fun _ _ _ hfirst => ?_⟩
    · rw [writeMoreFields, hwrite]
      simp [writeText]
    · have hmore := hreads f.1 _ f.2 (hf (depth + 1)).blank
      exact hfirst.readsFields_cons (hmore.space (isSpace_newLine (depth + 1)))

theorem Plain.readsAs_writeAt {v : Json} (h : v.Plain) : ∀ depth, ReadsAs (writeAt depth v) v := by
  induction h with
  | null => exact fun _ => Plain.null.readsAs_writeBefore
  | bool b => exact fun _ => (Plain.bool b).readsAs_writeBefore
  | int n => exact fun _ => (Plain.int n).readsAs_writeBefore
  | string s => exact fun _ => (Plain.string s).readsAs_writeBefore
  | @array vs _ ih =>
    intro depth
    cases vs with
    | nil => exact readsAs_array_nil
    | cons v vs =>
      obtain ⟨hv, hvs⟩ := List.forall_mem_cons.1 ih
      obtain ⟨cs, hwrite, hreads⟩ := exists_writeMoreItems depth vs hvs
      have hitems := hreads _ v ((hv (depth + 1)).space (isSpace_newLine (depth + 1)))
      rw [writeAt, hwrite, ← List.append_assoc]
      exact hitems.readsAs
  | @object fields _ ih =>
    intro depth
    cases fields with
    | nil => exact readsAs_object_nil
    | cons f fields =>
      obtain ⟨hf, hfields⟩ := List.forall_mem_cons.1 ih
      obtain ⟨cs, hwrite, hreads⟩ := exists_writeMoreFields depth fields hfields
      have hall := (hreads f.1 _ f.2 (hf (depth + 1)).blank).space (isSpace_newLine (depth + 1))
      rw [writeAt, hwrite, List.append_assoc, ← List.append_assoc _ cs, ← List.append_assoc]
      exact hall.readsAs

/-- A plain value is read back from its indented form. -/
theorem Plain.read?_writePretty {v : Json} (h : v.Plain) : read? v.writePretty = some v :=
  (h.readsAs_writeAt 0).read?_ofList

end Newsfeed.Json
