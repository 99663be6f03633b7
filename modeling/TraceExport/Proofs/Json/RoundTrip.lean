/-
Reading back what is printed. The reader inverts the escapes of every string, and takes the compact
text of a value off the front of any text that does not go on with it, so reading the compact text
of a value gives the value.
-/
import TraceExport.Json.Printer
import TraceExport.Json.Reader
import Mathlib.Tactic

namespace TraceExport.Json

/-! ## Strings -/

theorem digit?_smallHexDigit : ∀ n < 16, Numeral.digit? 16 (smallHexDigit n) = some n := by decide

theorem hexValue4?_control {c : Char} (h : c.toNat < 0x20) :
    hexValue4? '0' '0' (smallHexDigit (c.toNat / 16)) (smallHexDigit (c.toNat % 16)) = some c.toNat := by
  have h0 : Numeral.digit? 16 '0' = some 0 := by decide
  have hi := digit?_smallHexDigit (c.toNat / 16) (by omega)
  have lo := digit?_smallHexDigit (c.toNat % 16) (by omega)
  simp only [hexValue4?, h0, hi, lo, bind, Option.bind, pure, Option.some.injEq]
  omega

/-- An escape is read as the character it stands for. -/
theorem codes_escape (c : Char) (rest : List Char) :
    codes (escape c ++ rest) = (codes rest).map fun (ns, more) => (c.toNat :: ns, more) := by
  have letter : ∀ e, e ≠ 'u' → letterEscape? e = some c.toNat →
      codes ('\\' :: e :: rest) = (codes rest).map fun (ns, more) => (c.toNat :: ns, more) := by
    intro e hu he
    rw [codes, he]
    · cases codes rest <;> rfl
    · intro _ _ _ _ _ h _
      exact hu h
  unfold escape
  split
  · next h => subst h; exact letter '"' (by decide) rfl
  split
  · next h => subst h; exact letter '\\' (by decide) rfl
  split
  · next hq hb hp =>
    rw [List.singleton_append, codes]
    · simp only [Nat.not_lt.2 hp, hb, or_self, if_false]
      cases codes rest <;> rfl
    all_goals simp_all
  split
  · next h => subst h; exact letter 'n' (by decide) rfl
  split
  · next h => subst h; exact letter 'r' (by decide) rfl
  split
  · next h => subst h; exact letter 't' (by decide) rfl
  split
  · next h => subst h; exact letter 'b' (by decide) rfl
  split
  · next h => subst h; exact letter 'f' (by decide) rfl
  · next hp _ _ _ _ _ =>
    simp only [List.cons_append, List.nil_append]
    rw [codes, hexValue4?_control (Nat.lt_of_not_le hp)]
    cases codes rest <;> rfl

theorem codes_flatMap_escape (cs rest : List Char) :
    codes (cs.flatMap escape ++ '"' :: rest) = some (cs.map Char.toNat, rest) := by
  induction cs with
  | nil => rfl
  | cons c cs ih => rw [List.flatMap_cons, List.append_assoc, codes_escape, ih]; rfl

/-- No character is half of a pair. -/
theorem join_map_toNat (cs : List Char) : join (cs.map Char.toNat) = some cs := by
  induction cs with
  | nil => rfl
  | cons c cs ih =>
    have hv : c.toNat < 0xD800 ∨ 0xDFFF < c.toNat ∧ c.toNat < 0x110000 := c.valid
    have hh : isHigh c.toNat = false := by
      simp only [isHigh, Bool.and_eq_false_iff, decide_eq_false_iff_not]; omega
    have hl : isLow c.toNat = false := by
      simp only [isLow, Bool.and_eq_false_iff, decide_eq_false_iff_not]; omega
    rw [List.map_cons, join.eq_def]
    simp [hh, hl, ih, Char.ofNat_toNat]

/-- A string is read back after its opening quote. -/
theorem text?_quote (s : String) (rest : List Char) :
    text? (s.toList.flatMap escape ++ '"' :: rest) = some (some s, rest) := by
  simp [text?, codes_flatMap_escape, join_map_toNat]

/-! ## Values -/

/-- Whether a text does not go on with a number before it. -/
def Stops (rest : List Char) : Prop :=
  ∀ c cs, rest = c :: cs → c.isDigit = false ∧ c ≠ '.' ∧ c ≠ 'e' ∧ c ≠ 'E'

theorem stops_nil : Stops [] := by intro c cs h; cases h

theorem stops_cons {c : Char} {cs : List Char}
    (h : c.isDigit = false ∧ c ≠ '.' ∧ c ≠ 'e' ∧ c ≠ 'E') : Stops (c :: cs) := by
  intro c' cs' h'; cases h'; exact h

/-- A text that is read as one number wherever it stops. -/
structure IsNumber (cs : List Char) : Prop where
  head : ∃ c tail, cs = c :: tail ∧ (c = '-' ∨ c.isDigit = true)
  visible : ∀ c ∈ cs, 0x20 ≤ c.toNat
  reads : ∀ rest, Stops rest → number? (cs ++ rest) = some (cs, rest)

/-- A value that has a text: its numbers are numbers, and its strings are texts. -/
inductive Readable : Json → Prop
  | null : Readable .null
  | bool (b : Bool) : Readable (.bool b)
  | number {text : String} (h : IsNumber text.toList) : Readable (.number text)
  | string (s : String) : Readable (.string s)
  | array {items : List Json} (h : ∀ v ∈ items, Readable v) : Readable (.array items)
  | object {members : List (String × Json)} (h : ∀ m ∈ members, Readable m.2) : Readable (.object members)

theorem Readable.strings (ss : List String) : Readable (.array (ss.map .string)) := by
  refine .array fun v hv => ?_
  obtain ⟨s, _, rfl⟩ := List.mem_map.1 hv
  exact .string s

/-- A digit is no other character. -/
theorem ne_of_isDigit {c d : Char} (hc : c.isDigit = true) (hd : d.isDigit = false) : c ≠ d := by
  rintro rfl
  exact Bool.false_ne_true (hd.symm.trans hc)

/-- How the text of a value begins. -/
def IsStart (c : Char) : Prop :=
  c ∈ ['n', 't', 'f', '"', '[', '{', '-'] ∨ c.isDigit = true

theorem chars_start {v : Json} (h : v.Readable) : ∃ c tail, chars v = c :: tail ∧ IsStart c := by
  cases h with
  | null => exact ⟨'n', _, by rw [chars], .inl (by decide)⟩
  | bool b => cases b <;> rw [chars]; exacts [⟨'f', _, rfl, .inl (by decide)⟩, ⟨'t', _, rfl, .inl (by decide)⟩]
  | number h =>
    obtain ⟨c, tail, ht, hc⟩ := h.head
    refine ⟨c, tail, by rw [chars, ht], ?_⟩
    rcases hc with rfl | hc
    · exact .inl (by decide)
    · exact .inr hc
  | string s => exact ⟨'"', _, by rw [chars]; rfl, .inl (by decide)⟩
  | array h => exact ⟨'[', _, by rw [chars], .inl (by decide)⟩
  | object h => exact ⟨'{', _, by rw [chars], .inl (by decide)⟩

theorem IsStart.not_blank {c : Char} (h : IsStart c) : isBlank c = false ∧ c ≠ ']' ∧ c ≠ '}' := by
  rcases h with h | h
  · simp only [List.mem_cons, List.not_mem_nil, or_false] at h
    rcases h with rfl | rfl | rfl | rfl | rfl | rfl | rfl <;> decide
  · refine ⟨?_, ?_, ?_⟩
    · cases hb : isBlank c with
      | false => rfl
      | true =>
        simp only [isBlank, Bool.or_eq_true, beq_iff_eq] at hb
        rcases hb with ((rfl | rfl) | rfl) | rfl <;> revert h <;> decide
    · exact ne_of_isDigit h rfl
    · exact ne_of_isDigit h rfl

theorem skipBlank_cons {c : Char} (h : isBlank c = false) (cs : List Char) : skipBlank (c :: cs) = c :: cs := by
  simp [skipBlank, h]

theorem skipBlank_chars {v : Json} (h : v.Readable) (rest : List Char) :
    skipBlank (chars v ++ rest) = chars v ++ rest := by
  obtain ⟨c, tail, ht, hc⟩ := chars_start h
  rw [ht, List.cons_append, skipBlank_cons hc.not_blank.1]

theorem length_chars_pos {v : Json} (h : v.Readable) : 0 < (chars v).length := by
  obtain ⟨c, tail, ht, -⟩ := chars_start h
  simp [ht]

/-- What begins as a number is read as one. -/
theorem value_of_number {c : Char} (hc : c = '-' ∨ c.isDigit = true) (n : Nat) (cs : List Char) :
    value (n + 1) (c :: cs) = (number? (c :: cs)).map fun (ds, rest) => (.number (String.ofList ds), rest) := by
  have hs : IsStart c := by
    rcases hc with rfl | hc
    · exact .inl (by decide)
    · exact .inr hc
  have hne : c ≠ 'n' ∧ c ≠ 't' ∧ c ≠ 'f' ∧ c ≠ '"' ∧ c ≠ '[' ∧ c ≠ '{' := by
    rcases hc with rfl | hc
    · decide
    · refine ⟨?_, ?_, ?_, ?_, ?_, ?_⟩ <;> exact ne_of_isDigit hc rfl
  rw [value, skipBlank_cons hs.not_blank.1]
  obtain ⟨hn, ht, hf, hq, ha, ho⟩ := hne
  split
  · next h => exact absurd (List.cons.inj h).1 hn
  · next h => exact absurd (List.cons.inj h).1 ht
  · next h => exact absurd (List.cons.inj h).1 hf
  · next h => exact absurd (List.cons.inj h).1 hq
  · next h => exact absurd (List.cons.inj h).1 ha
  · next h => exact absurd (List.cons.inj h).1 ho
  · cases number? (c :: cs) <;> rfl

/-- An array with an item is read as its items. -/
theorem value_of_items {c : Char} (hc : IsStart c) (n : Nat) (cs : List Char) :
    value (n + 1) ('[' :: c :: cs) = (items n (c :: cs)).map fun (vs, rest) => (.array vs, rest) := by
  have hb : skipBlank ('[' :: c :: cs) = '[' :: c :: cs := skipBlank_cons (by decide) _
  rw [value, hb]
  simp only [skipBlank_cons hc.not_blank.1]
  split
  · next h => exact absurd (List.cons.inj h).1 hc.not_blank.2.1
  · cases items n (c :: cs) <;> rfl

/-- An object with a member is read as its members. -/
theorem value_of_members (n : Nat) (cs : List Char) :
    value (n + 1) ('{' :: '"' :: cs) = (members n ('"' :: cs)).map fun (ms, rest) => (ofMembers ms, rest) := by
  have hb : skipBlank ('{' :: '"' :: cs) = '{' :: '"' :: cs := skipBlank_cons (by decide) _
  have hq : skipBlank ('"' :: cs) = '"' :: cs := skipBlank_cons (by decide) _
  rw [value, hb]
  simp only [hq]
  split
  · next h => exact absurd (List.cons.inj h).1 (by decide)
  · cases members n ('"' :: cs) <;> rfl

theorem itemChars_start {v : Json} (h : v.Readable) (vs : List Json) :
    ∃ c tail, itemChars (v :: vs) = c :: tail ∧ IsStart c := by
  obtain ⟨c, tail, ht, hc⟩ := chars_start h
  cases vs with
  | nil => exact ⟨c, tail, by rw [itemChars, ht], hc⟩
  | cons w vs => exact ⟨c, _, by rw [itemChars, ht]; rfl, hc⟩

theorem memberChars_start (m : String × Json) (ms : List (String × Json)) :
    ∃ tail, memberChars (m :: ms) = '"' :: tail := by
  obtain ⟨k, v⟩ := m
  cases ms with
  | nil => exact ⟨_, by rw [memberChars, quote]; rfl⟩
  | cons m' ms => exact ⟨_, by rw [memberChars, quote]; rfl⟩

/-- A member is read up to the end of its object. -/
theorem members_last (k : String) {n : Nat} {cs rest : List Char} {v : Json}
    (hv : value n cs = some (v, '}' :: rest)) :
    members (n + 1) (quote k.toList ++ ':' :: cs) = some ([(some k, v)], rest) := by
  have hq : skipBlank (quote k.toList ++ ':' :: cs) = quote k.toList ++ ':' :: cs :=
    skipBlank_cons (by decide) _
  have hc : skipBlank (':' :: cs) = ':' :: cs := skipBlank_cons (by decide) _
  have hb : skipBlank ('}' :: rest) = '}' :: rest := skipBlank_cons (by decide) _
  rw [members, hq, quote, List.cons_append, List.append_assoc, List.singleton_append]
  simp [text?_quote, hc, hv, hb]

/-- A member is read up to the next one. -/
theorem members_next (k : String) {n : Nat} {cs rest : List Char} {v : Json}
    (hv : value n cs = some (v, ',' :: rest)) :
    members (n + 1) (quote k.toList ++ ':' :: cs) =
      (members n rest).map fun (ms, more) => ((some k, v) :: ms, more) := by
  have hq : skipBlank (quote k.toList ++ ':' :: cs) = quote k.toList ++ ':' :: cs :=
    skipBlank_cons (by decide) _
  have hc : skipBlank (':' :: cs) = ':' :: cs := skipBlank_cons (by decide) _
  have hb : skipBlank (',' :: rest) = ',' :: rest := skipBlank_cons (by decide) _
  rw [members, hq, quote, List.cons_append, List.append_assoc, List.singleton_append]
  simp only [text?_quote, hc, hv, hb, bind, Option.bind]
  cases members n rest <;> rfl

theorem ofMembers_some (ms : List (String × Json)) :
    ofMembers (ms.map fun m => (some m.1, m.2)) = .object ms := by
  have h (f : Option String × Json → Option (String × Json))
      (hf : ∀ m : String × Json, f (some m.1, m.2) = some m) :
      (ms.map fun m => (some m.1, m.2)).mapM f = some ms := by
    induction ms with
    | nil => rfl
    | cons m ms ih => simp [List.mapM_cons, ih, hf]
  rw [ofMembers, h _ fun _ => rfl]

mutual

/-- The text of a value is read off the front of a text. Each call takes a character or opens a
list, which the fuel pays for. -/
theorem value_chars : ∀ (v : Json) (n : Nat) (rest : List Char), v.Readable →
    2 * (chars v).length ≤ n → Stops rest → value n (chars v ++ rest) = some (v, rest)
  | v, 0, rest, hv, hn, _ => by
    have := length_chars_pos hv
    omega
  | .null, n + 1, rest, hv, _, _ => by rw [value, skipBlank_chars hv, chars]; rfl
  | .bool b, n + 1, rest, hv, _, _ => by
    rw [value, skipBlank_chars hv]
    cases b <;> rw [chars] <;> rfl
  | .number text, n + 1, rest, .number h, _, hr => by
    obtain ⟨c, tail, ht, hc⟩ := h.head
    have hreads := h.reads rest hr
    rw [chars, ht, List.cons_append, value_of_number hc, ← List.cons_append, ← ht, hreads]
    simp
  | .string s, n + 1, rest, hv, _, _ => by
    rw [value, skipBlank_chars hv, chars, quote]
    simp [text?_quote]
  | .array [], n + 1, rest, hv, _, _ => by
    rw [value, skipBlank_chars hv, chars, itemChars]
    rfl
  | .array (v :: vs), n + 1, rest, .array h, hn, _ => by
    obtain ⟨c, tail, ht, hc⟩ := itemChars_start (h v (List.mem_cons_self ..)) vs
    rw [chars, List.length_cons, List.length_append] at hn
    have hi := items_itemChars v vs n rest h (by omega)
    have he : chars (.array (v :: vs)) ++ rest = '[' :: c :: (tail ++ ']' :: rest) := by simp [chars, ht]
    rw [ht, List.cons_append] at hi
    rw [he, value_of_items hc, hi]
    rfl
  | .object [], n + 1, rest, hv, _, _ => by
    rw [value, skipBlank_chars hv, chars, memberChars]
    rfl
  | .object (m :: ms), n + 1, rest, .object h, hn, _ => by
    obtain ⟨tail, ht⟩ := memberChars_start m ms
    rw [chars, List.length_cons, List.length_append] at hn
    have hm := members_memberChars m ms n rest h (by omega)
    have he : chars (.object (m :: ms)) ++ rest = '{' :: '"' :: (tail ++ '}' :: rest) := by simp [chars, ht]
    rw [ht, List.cons_append] at hm
    rw [he, value_of_members, hm]
    simp only [Option.map_some, ofMembers_some]

theorem items_itemChars : ∀ (v : Json) (vs : List Json) (n : Nat) (rest : List Char),
    (∀ w ∈ v :: vs, w.Readable) → 2 * (itemChars (v :: vs)).length + 1 ≤ n →
      items n (itemChars (v :: vs) ++ ']' :: rest) = some (v :: vs, rest)
  | v, vs, 0, rest, _, hn => by omega
  | v, [], n + 1, rest, h, hn => by
    rw [itemChars] at hn ⊢
    rw [items, value_chars v n _ (h v (List.mem_cons_self ..)) (by omega) (stops_cons (by decide))]
    rfl
  | v, w :: vs, n + 1, rest, h, hn => by
    rw [itemChars, List.length_append, List.length_cons] at hn
    have hi := items_itemChars w vs n rest (fun u hu => h u (List.mem_cons_of_mem _ hu)) (by omega)
    rw [itemChars, List.append_assoc, List.cons_append, items,
      value_chars v n _ (h v (List.mem_cons_self ..)) (by omega) (stops_cons (by decide))]
    have hc : skipBlank (',' :: (itemChars (w :: vs) ++ ']' :: rest)) =
        ',' :: (itemChars (w :: vs) ++ ']' :: rest) := skipBlank_cons (by decide) _
    simp [hc, hi]

theorem members_memberChars : ∀ (m : String × Json) (ms : List (String × Json)) (n : Nat) (rest : List Char),
    (∀ m' ∈ m :: ms, m'.2.Readable) → 2 * (memberChars (m :: ms)).length + 1 ≤ n →
      members n (memberChars (m :: ms) ++ '}' :: rest) =
        some ((m :: ms).map fun m => (some m.1, m.2), rest)
  | m, ms, 0, rest, _, hn => by omega
  | (k, v), [], n + 1, rest, h, hn => by
    rw [memberChars, List.length_append, List.length_cons] at hn
    have hv := value_chars v n ('}' :: rest) (h (k, v) (List.mem_cons_self ..)) (by omega) (stops_cons (by decide))
    rw [memberChars, List.append_assoc, List.cons_append, members_last k hv]
    rfl
  | (k, v), m' :: ms, n + 1, rest, h, hn => by
    rw [memberChars, List.length_append, List.length_append, List.length_cons, List.length_cons] at hn
    have hm := members_memberChars m' ms n rest (fun u hu => h u (List.mem_cons_of_mem _ hu)) (by omega)
    have hv := value_chars v n (',' :: (memberChars (m' :: ms) ++ '}' :: rest))
      (h (k, v) (List.mem_cons_self ..)) (by omega) (stops_cons (by decide))
    rw [memberChars, List.append_assoc, List.append_assoc, List.cons_append, List.cons_append,
      members_next k hv, hm]
    rfl

end

theorem compact_string (s : String) : compact (.string s) = quoted s := by
  rw [compact, chars, quoted]

theorem compact_number (text : String) : compact (.number text) = text := by
  rw [compact, chars, String.ofList_toList]

theorem itemChars_eq (items : List Json) : itemChars items = [','].intercalate (items.map chars) := by
  induction items with
  | nil => rw [itemChars]; rfl
  | cons v items ih =>
    cases items with
    | nil => rw [itemChars, List.map_singleton, List.intercalate_singleton]
    | cons w items =>
      rw [itemChars, ih]
      simp only [List.map_cons, List.intercalate_cons_cons, List.append_assoc]
      rfl

/-- The compact text of an array is that of its items between brackets. -/
theorem compact_array (items : List Json) :
    compact (.array items) = "[" ++ ",".intercalate (items.map compact) ++ "]" := by
  have hchars : (items.map compact).map String.toList = items.map chars := by
    rw [List.map_map]
    exact List.map_congr_left fun v _ => String.toList_ofList
  refine String.toList_inj.1 ?_
  rw [compact, chars, itemChars_eq, String.toList_ofList, String.toList_append, String.toList_append,
    String.toList_intercalate, hchars]
  rfl

/-- Reading the compact text of a value gives the value. -/
theorem parse_compact {v : Json} (h : v.Readable) : Json.parse (compact v) = some v := by
  have hv := value_chars v (2 * (chars v).length + 1) [] h (by omega) stops_nil
  rw [List.append_nil] at hv
  have hnil : (skipBlank []).isEmpty = true := rfl
  simp only [Json.parse, read, compact, String.toList_ofList, hv, Option.bind_eq_bind, Option.bind_some, hnil, if_true]

/-! ## One line -/

theorem escape_visible (c : Char) : ∀ d ∈ escape c, 0x20 ≤ d.toNat := by
  have digit : ∀ n < 16, 0x20 ≤ (smallHexDigit n).toNat := by decide
  have letter : ∀ e, 0x20 ≤ e.toNat → ∀ d ∈ ['\\', e], 0x20 ≤ d.toNat := by
    intro e he d hd
    simp only [List.mem_cons, List.not_mem_nil, or_false] at hd
    rcases hd with rfl | rfl
    · decide
    · exact he
  unfold escape
  split
  · exact letter '"' (by decide)
  split
  · exact letter '\\' (by decide)
  split
  · next h => simpa using h
  split
  · exact letter 'n' (by decide)
  split
  · exact letter 'r' (by decide)
  split
  · exact letter 't' (by decide)
  split
  · exact letter 'b' (by decide)
  split
  · exact letter 'f' (by decide)
  · next hp _ _ _ _ _ =>
    intro d hd
    simp only [List.mem_cons, List.not_mem_nil, or_false] at hd
    rcases hd with rfl | rfl | rfl | rfl | rfl | rfl
    · decide
    · decide
    · decide
    · decide
    · exact digit _ (by omega)
    · exact digit _ (by omega)

theorem visible_of_all {cs : List Char} (h : cs.all (fun c => 0x20 ≤ c.toNat) = true) :
    ∀ c ∈ cs, 0x20 ≤ c.toNat := by
  simpa only [List.all_eq_true, decide_eq_true_eq] using h

theorem quote_visible (cs : List Char) : ∀ d ∈ quote cs, 0x20 ≤ d.toNat := by
  intro d hd
  simp only [quote, List.mem_cons, List.mem_append, List.not_mem_nil, or_false, List.mem_flatMap] at hd
  rcases hd with rfl | ⟨c, -, hd⟩ | rfl
  · decide
  · exact escape_visible c d hd
  · decide

mutual

/-- The compact text of a value has no control characters, and so no line breaks. -/
theorem chars_visible : ∀ v : Json, v.Readable → ∀ c ∈ chars v, 0x20 ≤ c.toNat
  | .null, _, c, hc => by
    rw [chars] at hc
    exact visible_of_all (by decide) c hc
  | .bool b, _, c, hc => by
    cases b <;> rw [chars] at hc <;> exact visible_of_all (by decide) c hc
  | .number text, .number h, c, hc => by
    rw [chars] at hc
    exact h.visible c hc
  | .string s, _, c, hc => by
    rw [chars] at hc
    exact quote_visible _ c hc
  | .array items, .array h, c, hc => by
    rw [chars] at hc
    simp only [List.mem_cons, List.mem_append, List.not_mem_nil, or_false] at hc
    rcases hc with rfl | hc | rfl
    · decide
    · exact itemChars_visible items h c hc
    · decide
  | .object members, .object h, c, hc => by
    rw [chars] at hc
    simp only [List.mem_cons, List.mem_append, List.not_mem_nil, or_false] at hc
    rcases hc with rfl | hc | rfl
    · decide
    · exact memberChars_visible members h c hc
    · decide

theorem itemChars_visible : ∀ items : List Json, (∀ v ∈ items, v.Readable) →
    ∀ c ∈ itemChars items, 0x20 ≤ c.toNat
  | [], _, c, hc => by rw [itemChars] at hc; cases hc
  | [v], h, c, hc => by
    rw [itemChars] at hc
    exact chars_visible v (h v (List.mem_cons_self ..)) c hc
  | v :: w :: vs, h, c, hc => by
    rw [itemChars, List.mem_append, List.mem_cons] at hc
    rcases hc with hc | rfl | hc
    · exact chars_visible v (h v (List.mem_cons_self ..)) c hc
    · decide
    · exact itemChars_visible (w :: vs) (fun u hu => h u (List.mem_cons_of_mem _ hu)) c hc

theorem memberChars_visible : ∀ members : List (String × Json), (∀ m ∈ members, m.2.Readable) →
    ∀ c ∈ memberChars members, 0x20 ≤ c.toNat
  | [], _, c, hc => by rw [memberChars] at hc; cases hc
  | [(k, v)], h, c, hc => by
    rw [memberChars, List.mem_append, List.mem_cons] at hc
    rcases hc with hc | rfl | hc
    · exact quote_visible _ c hc
    · decide
    · exact chars_visible v (h (k, v) (List.mem_cons_self ..)) c hc
  | (k, v) :: m :: ms, h, c, hc => by
    rw [memberChars, List.mem_append, List.mem_append, List.mem_cons, List.mem_cons] at hc
    rcases hc with (hc | rfl | hc) | rfl | hc
    · exact quote_visible _ c hc
    · decide
    · exact chars_visible v (h (k, v) (List.mem_cons_self ..)) c hc
    · decide
    · exact memberChars_visible (m :: ms) (fun u hu => h u (List.mem_cons_of_mem _ hu)) c hc

end

end TraceExport.Json
