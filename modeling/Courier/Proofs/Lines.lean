import Courier.Proofs.Cookies
import Mathlib.Data.List.Induction

/-!
# What lines leave in a jar

A jar that took any `Set-Cookie` lines is a map which remembers the order of its keys. The last line
that names a cookie decides whether there is one and which, and the cookies stand in the order in
which each was set since it was last removed. Lines are described by their grammar here, apart from
the way in which they are taken apart.

* `Gives`, `Expires`, `Numeral`: what a line says. `change?_eq_some_iff`: it is read so.
* `get?_of_last`: **the last line that names a cookie decides about it.**
* `Began`: the line that set a cookie for the first time since it was last removed.
* `inOrder_applyLines`: the cookies stand in the order of these lines.
* `lines_remain`: **what any lines leave in a jar.**
-/

namespace Courier.Jar

/-! ## The grammar of lines -/

/-- Decimal digits and the number that they write. -/
inductive Digits : List Char → Nat → Prop where
  | one {d : Nat} (hd : d < 10) : Digits [Nat.digitChar d] d
  | more {cs : List Char} {n d : Nat} (hcs : Digits cs n) (hd : d < 10) :
      Digits (cs ++ [Nat.digitChar d]) (n * 10 + d)

/-- Decimal digits, with a sign or without one, and the number that they write. -/
inductive Numeral : List Char → Int → Prop where
  | unsigned {cs : List Char} {n : Nat} (h : Digits cs n) : Numeral cs n
  | plus {cs : List Char} {n : Nat} (h : Digits cs n) : Numeral ('+' :: cs) n
  | minus {cs : List Char} {n : Nat} (h : Digits cs n) : Numeral ('-' :: cs) (-n)

/-- An attribute that removes the cookie of its line: its key is `max-age` in letters of either
case, and its value is a number of 64 bits that is not positive. -/
def Expires (part : List Char) : Prop :=
  ∃ key value, part = key ++ '=' :: value ∧ '=' ∉ key ∧
    (trim key).map Char.toLower = "max-age".toList ∧
    ∃ age : Int64, age ≤ 0 ∧ Numeral (trim value) age.toInt

/-- A line gives a cookie a value and attributes: before its first semicolon stand the name and the
value, separated by the first equals sign, and behind it the attributes. -/
def Gives (line name value : String) (attributes : List (List Char)) : Prop :=
  ∃ before after, line.toList = [';'].intercalate ((before ++ '=' :: after) :: attributes) ∧
    '=' ∉ before ∧ (∀ part ∈ (before ++ '=' :: after) :: attributes, ';' ∉ part) ∧
    name = String.ofList (trim before) ∧ name ≠ "" ∧ value = String.ofList (trim after)

/-- A line names a cookie. -/
def Names (line name : String) : Prop := ∃ value attributes, Gives line name value attributes

/-- A line sets a cookie to a value. -/
def Sets (line name value : String) : Prop :=
  ∃ attributes, Gives line name value attributes ∧ ∀ a ∈ attributes, ¬ Expires a

/-- A line removes a cookie. -/
def Removes (line name : String) : Prop :=
  ∃ value attributes, Gives line name value attributes ∧ ∃ a ∈ attributes, Expires a

/-! ## Numbers -/

/-- The digit that a character between `0` and `9` shows. -/
theorem exists_digitChar {c : Char} (h : '0' ≤ c ∧ c ≤ '9') :
    ∃ d, d < 10 ∧ c = Nat.digitChar d := by
  have hlow : 48 ≤ c.toNat := h.1
  have hhigh : c.toNat ≤ 57 := h.2
  obtain ⟨d, hd⟩ := Nat.exists_eq_add_of_le hlow
  have hlt : d < 10 := by omega
  refine ⟨d, hlt, Char.toNat_inj.1 ?_⟩
  rw [hd, Nat.toNat_digitChar_of_lt_ten hlt]

theorem digitChar_bounds {d : Nat} (hd : d < 10) :
    ('0' ≤ Nat.digitChar d ∧ Nat.digitChar d ≤ '9') ∧ (Nat.digitChar d).toNat - '0'.toNat = d := by
  have hall : ∀ k : Fin 10, ('0' ≤ Nat.digitChar k ∧ Nat.digitChar k ≤ '9') ∧
      (Nat.digitChar k).toNat - '0'.toNat = k := by decide
  exact hall ⟨d, hd⟩

/-- The number that a text of digits writes, counted from its front. -/
def magnitude (cs : List Char) : Nat := cs.foldl (fun n c => n * 10 + (c.toNat - '0'.toNat)) 0

theorem foldl_eq_magnitude (cs : List Char) :
    cs.foldl (fun (n : Int) c => n * 10 + (c.toNat - '0'.toNat : Nat)) 0 = magnitude cs := by
  induction cs using List.reverseRecOn with
  | nil => rfl
  | append_singleton cs c ih =>
    rw [magnitude, List.foldl_concat, List.foldl_concat, ih]
    push_cast
    rfl

/-- **Digits are read as the number that they write.** -/
theorem digits_iff {cs : List Char} {n : Nat} :
    Digits cs n ↔ cs ≠ [] ∧ (cs.all fun c => '0' ≤ c ∧ c ≤ '9') ∧ magnitude cs = n := by
  constructor
  · intro h
    induction h with
    | one hd =>
      obtain ⟨hbounds, hvalue⟩ := digitChar_bounds hd
      refine ⟨by simp, by simpa using hbounds, ?_⟩
      rw [magnitude, List.foldl_cons, List.foldl_nil, hvalue, Nat.zero_mul, Nat.zero_add]
    | more _ hd ih =>
      obtain ⟨hbounds, hvalue⟩ := digitChar_bounds hd
      obtain ⟨-, hall, rfl⟩ := ih
      refine ⟨by simp, by simpa [hbounds] using hall, ?_⟩
      rw [magnitude, List.foldl_concat, hvalue]
      rfl
  · rintro ⟨hne, hall, rfl⟩
    induction cs using List.reverseRecOn with
    | nil => exact absurd rfl hne
    | append_singleton cs c ih =>
      rw [List.all_append, Bool.and_eq_true] at hall
      obtain ⟨d, hd, rfl⟩ := exists_digitChar (by simpa using hall.2)
      have hvalue : magnitude (cs ++ [Nat.digitChar d]) = magnitude cs * 10 + d := by
        rw [magnitude, List.foldl_concat, (digitChar_bounds hd).2]
        rfl
      rw [hvalue]
      by_cases hcs : cs = []
      · subst hcs
        simpa [magnitude] using Digits.one hd
      · exact .more (ih hcs hall.1) hd

/-- Digits behind a sign, read as a number if 64 bits hold it. -/
def signed? (negative : Bool) (digits : List Char) : Option Int :=
  if digits = [] ∨ !digits.all fun c => '0' ≤ c ∧ c ≤ '9' then none else
    let n : Int := digits.foldl (fun (n : Int) c => n * 10 + (c.toNat - '0'.toNat : Nat)) 0
    let i := if negative then -n else n
    if -2 ^ 63 ≤ i ∧ i < 2 ^ 63 then some i else none

theorem signed?_eq_some_iff (negative : Bool) (digits : List Char) (i : Int) :
    signed? negative digits = some i ↔
      (∃ n, Digits digits n ∧ i = if negative then -(n : Int) else n) ∧
        -2 ^ 63 ≤ i ∧ i < 2 ^ 63 := by
  simp only [signed?, digits_iff, foldl_eq_magnitude]
  split
  · rename_i hread
    constructor
    · intro h
      cases h
    · rintro ⟨⟨n, ⟨hne, hall, -⟩, -⟩, -⟩
      rw [hall] at hread
      simp [hne] at hread
  · rename_i hread
    have hdigits : digits ≠ [] ∧ (digits.all fun c => '0' ≤ c ∧ c ≤ '9') = true := by
      simpa only [not_or, Bool.not_eq_true', Bool.not_eq_false] using hread
    rw [Option.ite_none_right_eq_some, Option.some_inj]
    constructor
    · rintro ⟨hrange, rfl⟩
      exact ⟨⟨_, ⟨hdigits.1, hdigits.2, rfl⟩, rfl⟩, hrange⟩
    · rintro ⟨⟨n, ⟨-, -, rfl⟩, rfl⟩, hrange⟩
      exact ⟨hrange, rfl⟩

/-- No sign is a digit. -/
theorem Digits.head_ne {c : Char} {cs : List Char} {n : Nat} (h : Digits (c :: cs) n) :
    c ≠ '-' ∧ c ≠ '+' := by
  obtain ⟨-, hall, -⟩ := digits_iff.1 h
  rw [List.all_cons, Bool.and_eq_true, decide_eq_true_eq] at hall
  constructor
  · rintro rfl
    exact absurd hall.1 (by decide)
  · rintro rfl
    exact absurd hall.1 (by decide)

/-- **A number is read if 64 bits hold it**, and as what it writes. -/
theorem age?_eq_some_iff {cs : List Char} {i : Int} :
    age? cs = some i ↔ Numeral cs i ∧ -2 ^ 63 ≤ i ∧ i < 2 ^ 63 := by
  -- The cases are those of the sign, as it is looked for in the text.
  unfold age?
  split
  rename_i negative digits hsign
  refine (signed?_eq_some_iff negative digits i).trans (and_congr_left fun _ => ?_)
  split at hsign
  · cases hsign
    constructor
    · rintro ⟨n, hn, rfl⟩
      exact .minus hn
    · intro h
      cases h with
      | unsigned h => exact absurd rfl h.head_ne.1
      | minus h => exact ⟨_, h, rfl⟩
  · cases hsign
    constructor
    · rintro ⟨n, hn, rfl⟩
      exact .plus hn
    · intro h
      cases h with
      | unsigned h => exact absurd rfl h.head_ne.2
      | plus h => exact ⟨_, h, rfl⟩
  · rename_i hminus hplus
    cases hsign
    constructor
    · rintro ⟨n, hn, rfl⟩
      exact .unsigned hn
    · intro h
      cases h with
      | unsigned h => exact ⟨_, h, rfl⟩
      | plus h => exact absurd rfl (hplus _)
      | minus h => exact absurd rfl (hminus _)

/-! ## Reading a line -/

variable {line name value n : String} {attributes : List (List Char)}

/-- **A pair is split at its first equals sign.** -/
theorem splitPair?_eq_some_iff {cs a b : List Char} :
    splitPair? cs = some (a, b) ↔ cs = a ++ '=' :: b ∧ '=' ∉ a := by
  refine ⟨splitPair?_eq_some, ?_⟩
  rintro ⟨rfl, hnot⟩
  induction a with
  | nil => rfl
  | cons c a ih =>
    simp only [List.mem_cons, not_or] at hnot
    rw [List.cons_append, splitPair?, if_neg (Ne.symm hnot.1), ih hnot.2]
    rfl

/-- **An attribute is read as one that removes its cookie** exactly if it is one. -/
theorem expires_iff {part : List Char} : expires part = true ↔ Expires part := by
  unfold expires Expires
  cases hsplit : splitPair? part with
  | none =>
    constructor
    · intro h
      cases h
    · rintro ⟨key, value, hpart, hkey, -⟩
      rw [splitPair?_eq_some_iff.2 ⟨hpart, hkey⟩] at hsplit
      cases hsplit
  | some ab =>
    obtain ⟨key, value⟩ := ab
    have hage : ((age? (trim value)).any fun age => decide (age ≤ 0)) = true ↔
        ∃ age : Int64, age ≤ 0 ∧ Numeral (trim value) age.toInt := by
      rw [Option.any_eq_true]
      constructor
      · rintro ⟨i, hi, hle⟩
        obtain ⟨hnumeral, hlow, hhigh⟩ := age?_eq_some_iff.1 hi
        have hint : (Int64.ofInt i).toInt = i := Int64.toInt_ofInt_of_le hlow hhigh
        refine ⟨Int64.ofInt i, ?_, hint.symm ▸ hnumeral⟩
        rw [Int64.le_iff_toInt_le, hint]
        simpa using hle
      · rintro ⟨age, hle, hnumeral⟩
        have hread : age? (trim value) = some age.toInt :=
          age?_eq_some_iff.2 ⟨hnumeral, Int64.le_toInt age, Int64.toInt_lt age⟩
        exact ⟨age.toInt, hread, by simpa using Int64.le_iff_toInt_le.1 hle⟩
    rw [Bool.and_eq_true, beq_iff_eq, hage]
    obtain ⟨hpart, hkey⟩ := splitPair?_eq_some_iff.1 hsplit
    constructor
    · rintro ⟨hmax, hage⟩
      exact ⟨key, value, hpart, hkey, hmax, hage⟩
    · rintro ⟨key', value', hpart', hkey', hmax, hage⟩
      rw [splitPair?_eq_some_iff.2 ⟨hpart', hkey'⟩] at hsplit
      cases hsplit
      exact ⟨hmax, hage⟩

/-- What a line gives is what stands in it before and behind its semicolons. -/
theorem gives_iff :
    Gives line name value attributes ↔ ∃ before after,
      line.toList.splitOn ';' = (before ++ '=' :: after) :: attributes ∧ '=' ∉ before ∧
      trim before ≠ [] ∧ name = String.ofList (trim before) ∧
      value = String.ofList (trim after) := by
  unfold Gives
  refine exists_congr fun before => exists_congr fun after => ?_
  constructor
  · rintro ⟨hline, hbefore, hparts, rfl, hne, rfl⟩
    refine ⟨?_, hbefore, by simpa using hne, rfl, rfl⟩
    rw [hline, List.splitOn_intercalate ';' hparts (by simp)]
  · rintro ⟨hline, hbefore, hne, rfl, rfl⟩
    refine ⟨?_, hbefore, ?_, rfl, by simpa using hne, rfl⟩
    · rw [← hline, List.intercalate_splitOn]
    · rw [← hline]
      exact fun part hpart => notMem_of_mem_splitOn hpart

/-- **A line asks for a change** exactly if it gives a value to a cookie, and its attributes say
which change. -/
theorem change?_eq_some_iff {change : Change} :
    change? line = some change ↔ ∃ name value attributes, Gives line name value attributes ∧
      change = if attributes.any expires then .remove name else .set name value := by
  simp only [gives_iff]
  unfold change?
  obtain ⟨pair, attributes, hparts⟩ :=
    List.exists_cons_of_ne_nil (List.splitOn_ne_nil ';' line.toList)
  rw [hparts]
  dsimp only
  constructor
  · intro h
    split at h
    · cases h
    · rename_i before after hsplit
      obtain ⟨rfl, hbefore⟩ := splitPair?_eq_some hsplit
      obtain ⟨hne, h⟩ := Option.ite_none_left_eq_some.1 h
      refine ⟨_, _, attributes, ⟨before, after, rfl, hbefore, hne, rfl, rfl⟩, ?_⟩
      rw [← Option.some_inj, ← h, apply_ite some]
  · rintro ⟨name, value, attributes', ⟨before, after, hline, hbefore, hne, rfl, rfl⟩, rfl⟩
    cases hline
    have hsplit : splitPair? (before ++ '=' :: after) = some (before, after) :=
      splitPair?_eq_some_iff.2 ⟨rfl, hbefore⟩
    rw [hsplit]
    dsimp only
    rw [if_neg hne, apply_ite some]

theorem change?_eq_set_iff : change? line = some (.set name value) ↔ Sets line name value := by
  rw [change?_eq_some_iff]
  constructor
  · rintro ⟨name', value', attributes, hgives, heq⟩
    split at heq
    · cases heq
    · rename_i hany
      cases heq
      exact ⟨attributes, hgives, fun a ha hexpires => hany
        (List.any_eq_true.2 ⟨a, ha, expires_iff.2 hexpires⟩)⟩
  · rintro ⟨attributes, hgives, hnone⟩
    refine ⟨name, value, attributes, hgives, (if_neg fun hany => ?_).symm⟩
    obtain ⟨a, ha, hexpires⟩ := List.any_eq_true.1 hany
    exact hnone a ha (expires_iff.1 hexpires)

theorem change?_eq_remove_iff : change? line = some (.remove name) ↔ Removes line name := by
  rw [change?_eq_some_iff]
  constructor
  · rintro ⟨name', value', attributes, hgives, heq⟩
    split at heq
    · rename_i hany
      obtain ⟨a, ha, hexpires⟩ := List.any_eq_true.1 hany
      cases heq
      exact ⟨value', attributes, hgives, a, ha, expires_iff.1 hexpires⟩
    · cases heq
  · rintro ⟨value, attributes, hgives, a, ha, hexpires⟩
    exact ⟨name, value, attributes, hgives,
      (if_pos (List.any_eq_true.2 ⟨a, ha, expires_iff.2 hexpires⟩)).symm⟩

/-- **A line is about the cookie that it names**, and about no other. -/
theorem name_of_change? {change : Change} (h : change? line = some change) :
    Names line n ↔ change.name = n := by
  obtain ⟨name, value, attributes, hgives, hchange⟩ := change?_eq_some_iff.1 h
  have hname : change.name = name := by
    rw [hchange]
    split <;> rfl
  rw [hname]
  constructor
  · rintro ⟨value', attributes', hgives'⟩
    obtain ⟨before, after, hline, hbefore, -, rfl, -⟩ := gives_iff.1 hgives
    obtain ⟨before', after', hline', hbefore', -, rfl, -⟩ := gives_iff.1 hgives'
    have hpair : before ++ '=' :: after = before' ++ '=' :: after' := by
      rw [hline] at hline'
      exact (List.cons.inj hline').1
    have hsplit := (splitPair?_eq_some_iff.2 ⟨hpair, hbefore'⟩).symm.trans
      (splitPair?_eq_some_iff.2 ⟨rfl, hbefore⟩)
    cases hsplit
    rfl
  · rintro rfl
    exact ⟨value, attributes, hgives⟩

/-- The part of a line before its first semicolon. -/
theorem takeWhile_of_gives {before after : List Char}
    (h : line.toList.splitOn ';' = (before ++ '=' :: after) :: attributes) :
    line.toList.takeWhile (· ≠ ';') = before ++ '=' :: after := by
  have hpair : ';' ∉ before ++ '=' :: after := notMem_of_mem_splitOn (h ▸ List.mem_cons_self)
  have hline : line.toList = [';'].intercalate ((before ++ '=' :: after) :: attributes) := by
    rw [← h, List.intercalate_splitOn]
  rw [hline, intercalate_cons]
  refine takeWhile_append_separated hpair ?_
  cases attributes with
  | nil => simp
  | cons a attributes => simp [eq_comm]

/-- **A line without an equals sign before its first semicolon**, or without a name before it, names
no cookie. -/
theorem not_names_of_malformed (h : '=' ∉ line.toList.takeWhile (· ≠ ';') ∨
    trim ((line.toList.takeWhile (· ≠ ';')).takeWhile (· ≠ '=')) = []) (n : String) :
    ¬ Names line n := by
  rintro ⟨value, attributes, hgives⟩
  obtain ⟨before, after, hline, hbefore, hne, -⟩ := gives_iff.1 hgives
  rw [takeWhile_of_gives hline] at h
  rcases h with h | h
  · simp at h
  · rw [takeWhile_append_separated hbefore (by simp)] at h
    exact hne h

/-! ## What the last line about a cookie comes to -/

theorem applyLine_of_sets (h : Sets line name value) (jar : Jar) :
    jar.applyLine line = jar.insert name value := by
  unfold Jar.applyLine
  rw [change?_eq_set_iff.2 h]
  rfl

theorem applyLine_of_removes (h : Removes line name) (jar : Jar) :
    jar.applyLine line = jar.erase name := by
  unfold Jar.applyLine
  rw [change?_eq_remove_iff.2 h]
  rfl

/-- **A line that names no cookie changes nothing.** -/
theorem applyLine_of_not_names (h : ∀ n, ¬ Names line n) (jar : Jar) :
    jar.applyLine line = jar := by
  unfold Jar.applyLine
  cases hchange : change? line with
  | none => rfl
  | some change => exact absurd ((name_of_change? hchange).2 rfl) (h change.name)

/-- **A line leaves the cookies alone that it does not name.** -/
theorem get?_applyLine_of_not_names (h : ¬ Names line n) (jar : Jar) :
    (jar.applyLine line).get? n = jar.get? n := by
  unfold Jar.applyLine
  cases hchange : change? line with
  | none => rfl
  | some change => exact get?_apply_of_ne (mt (name_of_change? hchange).2 h) jar

/-- A line sets a cookie, or removes one, or names none. -/
theorem line_cases (line : String) :
    (∃ name value, Sets line name value) ∨ (∃ name, Removes line name) ∨ ∀ n, ¬ Names line n := by
  cases hchange : change? line with
  | none =>
    refine .inr (.inr ?_)
    rintro n ⟨value, attributes, hgives⟩
    rw [change?_eq_some_iff.2 ⟨n, value, attributes, hgives, rfl⟩] at hchange
    cases hchange
  | some change =>
    cases change with
    | set name value => exact .inl ⟨name, value, change?_eq_set_iff.1 hchange⟩
    | remove name => exact .inr (.inl ⟨name, change?_eq_remove_iff.1 hchange⟩)

variable {lines before after : List String} {jar : Jar}

theorem get?_applyLines_of_not_names (h : ∀ line ∈ lines, ¬ Names line n) (jar : Jar) :
    (jar.applyLines lines).get? n = jar.get? n := by
  induction lines generalizing jar with
  | nil => rfl
  | cons line lines ih =>
    obtain ⟨hline, hlines⟩ := List.forall_mem_cons.1 h
    exact (ih hlines (jar.applyLine line)).trans (get?_applyLine_of_not_names hline jar)

theorem applyLines_append (jar : Jar) (before after : List String) :
    jar.applyLines (before ++ after) = (jar.applyLines before).applyLines after :=
  List.foldl_append

/-- **The last line that names a cookie decides about it**, whatever came before. -/
theorem get?_of_last (h : ∀ line ∈ after, ¬ Names line n) (jar : Jar) :
    (jar.applyLines (before ++ line :: after)).get? n =
      ((jar.applyLines before).applyLine line).get? n := by
  rw [applyLines_append]
  exact get?_applyLines_of_not_names h _

/-! ## The order of the cookies -/

/-- Every line that sets a cookie is followed by one that removes it. -/
def Gone (lines : List String) (n : String) : Prop :=
  ∀ before line value after, lines = before ++ line :: after → Sets line n value →
    ∃ later ∈ after, Removes later n

/-- The number of the line that set a cookie for the first time since it was last removed. -/
def Began (lines : List String) (n : String) (i : Nat) : Prop :=
  ∃ before line value after, lines = before ++ line :: after ∧ before.length = i ∧
    Gone before n ∧ Sets line n value ∧ ∀ later ∈ after, ¬ Removes later n

/-- **There is only one such line.** -/
theorem Began.unique {i j : Nat} (hi : Began lines n i) (hj : Began lines n j) : i = j := by
  -- The earlier of two would be followed by a removal before the later one.
  have hlt {i j : Nat} (hi : Began lines n i) (hj : Began lines n j) : ¬ i < j := by
    intro hij
    obtain ⟨before, line, value, after, rfl, rfl, -, hsets, hkept⟩ := hi
    obtain ⟨before', line', value', after', heq, rfl, hgone, -, -⟩ := hj
    rcases List.append_eq_append_iff.1 heq with ⟨mid, hbefore, hafter⟩ | ⟨mid, hbefore, -⟩
    · cases mid with
      | nil => simp [hbefore] at hij
      | cons first mid =>
        obtain ⟨rfl, rfl⟩ := List.cons.inj hafter
        obtain ⟨later, hlater, hremoves⟩ := hgone before line value mid hbefore hsets
        exact hkept later (List.mem_append_left _ hlater) hremoves
    · rw [hbefore, List.length_append] at hij
      omega
  have := hlt hi hj
  have := hlt hj hi
  omega

theorem not_removes_of_sets (h : Sets line name value) : ¬ Removes line n := by
  intro hremoves
  have hchange := (change?_eq_set_iff.2 h).symm.trans (change?_eq_remove_iff.2 hremoves)
  cases hchange

/-- A line that does not remove a cookie leaves it, with one value or another. -/
theorem isSome_get?_applyLine (h : ¬ Removes line n) (hjar : (jar.get? n).isSome) :
    ((jar.applyLine line).get? n).isSome := by
  rcases line_cases line with ⟨name, value, hsets⟩ | ⟨name, hremoves⟩ | hnone
  · rw [applyLine_of_sets hsets, get?_insert]
    split
    · rfl
    · exact hjar
  · have hne : n ≠ name := by
      rintro rfl
      exact h hremoves
    rw [applyLine_of_removes hremoves, get?_erase, if_neg hne]
    exact hjar
  · rw [applyLine_of_not_names hnone]
    exact hjar

theorem isSome_get?_applyLines (h : ∀ line ∈ lines, ¬ Removes line n)
    (hjar : (jar.get? n).isSome) : ((jar.applyLines lines).get? n).isSome := by
  induction lines generalizing jar with
  | nil => exact hjar
  | cons line lines ih =>
    obtain ⟨hline, hlines⟩ := List.forall_mem_cons.1 h
    exact ih hlines (isSome_get?_applyLine hline hjar)

/-- **A cookie that is not there** was removed after it was set. -/
theorem gone_of_get?_eq_none (h : (jar.applyLines lines).get? n = none) : Gone lines n := by
  rintro before line value after rfl hsets
  by_contra hkept
  have hset : (((jar.applyLines before).applyLine line).get? n).isSome := by
    rw [applyLine_of_sets hsets, get?_insert, if_pos rfl]
    rfl
  have hsome := isSome_get?_applyLines (fun l hl hr => hkept ⟨l, hl, hr⟩) hset
  rw [applyLines_append] at h
  have hnone : (((jar.applyLines before).applyLine line).applyLines after).get? n = none := h
  rw [hnone] at hsome
  cases hsome

/-- A further line moves no cookie that it does not remove. -/
theorem Began.concat {i : Nat} (h : Began lines n i) (hline : ¬ Removes line n) :
    Began (lines ++ [line]) n i := by
  obtain ⟨before, first, value, after, rfl, hlength, hgone, hsets, hkept⟩ := h
  refine ⟨before, first, value, after ++ [line], by simp, hlength, hgone, hsets, ?_⟩
  intro later hlater
  rcases List.mem_append.1 hlater with hlater | hlater
  · exact hkept later hlater
  · rw [List.mem_singleton.1 hlater]
    exact hline

theorem Began.lt_length {i : Nat} (h : Began lines n i) : i < lines.length := by
  obtain ⟨before, line, value, after, rfl, rfl, -⟩ := h
  simp

/-- One cookie began before another one. -/
def Precedes (lines : List String) (m n : String) : Prop :=
  ∃ i j, Began lines m i ∧ Began lines n j ∧ i < j

/-- Cookies that stand in the order in which they began. -/
structure InOrder (lines names : List String) : Prop where
  began : ∀ n ∈ names, ∃ i, Began lines n i
  ordered : names.Pairwise (Precedes lines)

theorem InOrder.sublist {names names' : List String} (h : InOrder lines names)
    (hsub : names'.Sublist names) : InOrder lines names' where
  began n hn := h.began n (hsub.subset hn)
  ordered := h.ordered.sublist hsub

/-- A further line keeps the order of what it does not remove. -/
theorem InOrder.concat {names : List String} (h : InOrder lines names)
    (hline : ∀ n ∈ names, ¬ Removes line n) : InOrder (lines ++ [line]) names where
  began n hn := by
    obtain ⟨i, hi⟩ := h.began n hn
    exact ⟨i, hi.concat (hline n hn)⟩
  ordered := by
    refine h.ordered.imp_of_mem ?_
    rintro m n hm hn ⟨i, j, hi, hj, hij⟩
    exact ⟨i, j, hi.concat (hline m hm), hj.concat (hline n hn), hij⟩

/-- A new cookie begins behind all others. -/
theorem InOrder.append {names : List String} (h : InOrder lines names) (hgone : Gone lines n)
    (hsets : Sets line n value) : InOrder (lines ++ [line]) (names ++ [n]) := by
  have hnew : Began (lines ++ [line]) n lines.length :=
    ⟨lines, line, value, [], rfl, rfl, hgone, hsets, by simp⟩
  have hold := h.concat fun _ _ => not_removes_of_sets hsets
  constructor
  · intro m hm
    rcases List.mem_append.1 hm with hm | hm
    · exact hold.began m hm
    · rw [List.mem_singleton.1 hm]
      exact ⟨_, hnew⟩
  · refine List.pairwise_append.2 ⟨hold.ordered, List.pairwise_singleton _ _, ?_⟩
    intro m hm _ hlast
    rw [List.mem_singleton.1 hlast]
    obtain ⟨i, hi⟩ := h.began m hm
    exact ⟨i, _, hi.concat (not_removes_of_sets hsets), hnew, hi.lt_length⟩

/-- The names of a jar. -/
def names (jar : Jar) : List String := jar.cookies.map (·.1)

theorem names_erase (jar : Jar) (name : String) :
    (jar.erase name).names = jar.names.filter (· ≠ name) := by
  unfold names erase
  rw [List.filter_map]
  rfl

theorem names_insert (jar : Jar) (name value : String) :
    (jar.insert name value).names =
      if name ∈ jar.names then jar.names else jar.names ++ [name] := by
  unfold names insert
  split
  · exact map_fst_replace name value jar.cookies
  · rw [List.map_append]
    rfl

/-- **The cookies stand in the order in which they began**, by induction from the last line. -/
theorem inOrder_applyLines (lines : List String) :
    InOrder lines (empty.applyLines lines).names := by
  induction lines using List.reverseRecOn with
  | nil => exact ⟨nofun, .nil⟩
  | append_singleton lines line ih =>
    have hlast : empty.applyLines (lines ++ [line]) = (empty.applyLines lines).applyLine line :=
      applyLines_append empty lines [line]
    rw [hlast]
    rcases line_cases line with ⟨name, value, hsets⟩ | ⟨name, hremoves⟩ | hnone
    · rw [applyLine_of_sets hsets, names_insert]
      split
      · exact ih.concat fun _ _ => not_removes_of_sets hsets
      · rename_i hmem
        have hget : (empty.applyLines lines).get? name = none :=
          Option.not_isSome_iff_eq_none.1 fun h => hmem (lookup_isSome_iff.1 h)
        exact ih.append (gone_of_get?_eq_none hget) hsets
    · rw [applyLine_of_removes hremoves, names_erase]
      refine (ih.sublist List.filter_sublist).concat ?_
      intro n hn hremoves'
      have hremove := change?_eq_remove_iff.2 hremoves
      rw [change?_eq_remove_iff.2 hremoves'] at hremove
      cases hremove
      simp at hn
    · rw [applyLine_of_not_names hnone]
      refine ih.concat ?_
      rintro n - ⟨value, attributes, hgives, -⟩
      exact hnone n ⟨value, attributes, hgives⟩

/-! ## What lines leave behind -/

/-- What lines leave in a jar: a map that remembers the order of its keys. -/
structure Remains (lines : List String) (jar : Jar) : Prop where
  clean : jar.Clean
  distinct : jar.names.Nodup
  listed : ∀ n value, (n, value) ∈ jar.cookies ↔ jar.get? n = some value
  unnamed : ∀ n, (∀ line ∈ lines, ¬ Names line n) → jar.get? n = none
  removed : ∀ n before line after, lines = before ++ line :: after →
    (∀ later ∈ after, ¬ Names later n) → Removes line n → jar.get? n = none
  set : ∀ n value before line after, lines = before ++ line :: after →
    (∀ later ∈ after, ¬ Names later n) → Sets line n value → jar.get? n = some value
  header_eq : jar.header = "; ".intercalate (jar.cookies.map fun c => c.1 ++ "=" ++ c.2)
  began : ∀ n ∈ jar.names, ∃! i, Began lines n i
  ordered : jar.names.Pairwise (Precedes lines)
  malformed : ∀ line : String, ('=' ∉ line.toList.takeWhile (· ≠ ';') ∨
    trim ((line.toList.takeWhile (· ≠ ';')).takeWhile (· ≠ '=')) = []) → jar.applyLine line = jar

/-- **What any lines leave in a jar.** The last line that names a cookie decides whether it is there
and with which value, a line without a name changes nothing, and the header lists the cookies in the
order in which each was first set since it was last removed. -/
theorem lines_remain (lines : List String) : Remains lines (empty.applyLines lines) where
  clean := clean_empty.applyLines lines
  distinct := (empty.applyLines lines).nodup
  listed n value := mem_iff_lookup (empty.applyLines lines).nodup
  unnamed n h := get?_applyLines_of_not_names h empty
  removed := by
    rintro n before line after rfl hafter hremoves
    rw [get?_of_last hafter, applyLine_of_removes hremoves, get?_erase, if_pos rfl]
  set := by
    rintro n value before line after rfl hafter hsets
    rw [get?_of_last hafter, applyLine_of_sets hsets, get?_insert, if_pos rfl]
  header_eq := rfl
  began n hn := by
    obtain ⟨i, hi⟩ := (inOrder_applyLines lines).began n hn
    exact ⟨i, hi, fun j hj => hj.unique hi⟩
  ordered := (inOrder_applyLines lines).ordered
  malformed line h := applyLine_of_not_names (not_names_of_malformed h) _

/-- A cookie that is set again keeps its place, and one that was removed in between loses it. -/
example : (empty.applyLines ["a=1", "b = 2; Path=/", "c=3", "a=; MAX-age = -0", "a=4=5", "b=6;",
    "d; x=7", " =8"]).header = "b=6; c=3; a=4=5" := by
  decide +kernel

end Courier.Jar
