/-!
# White space

A blank is a character with the Unicode property White_Space.

* `head?_trim`, `getLast?_trim`: the ends of what is left are not blank.
* `trim_eq_self`: a text whose ends are not blank is left alone; so trimming twice is trimming once
  (`trim_trim`).
-/

namespace Courier

/-- Whether a character has the property White_Space. -/
def isBlank (c : Char) : Bool :=
  let n := c.toNat
  (9 ≤ n && n ≤ 13) || n == 0x20 || n == 0x85 || n == 0xA0 || n == 0x1680
    || (0x2000 ≤ n && n ≤ 0x200A) || n == 0x2028 || n == 0x2029 || n == 0x202F
    || n == 0x205F || n == 0x3000

/-- Removes the blanks at both ends. -/
def trim (s : List Char) : List Char :=
  ((s.dropWhile isBlank).reverse.dropWhile isBlank).reverse

theorem trim_sublist (s : List Char) : (trim s).Sublist s := by
  have hreverse := (List.dropWhile_sublist isBlank (l := (s.dropWhile isBlank).reverse)).reverse
  rw [List.reverse_reverse] at hreverse
  exact hreverse.trans (List.dropWhile_sublist isBlank)

theorem trim_eq_self {s : List Char} (hhead : ∀ c ∈ s.head?, isBlank c = false)
    (hlast : ∀ c ∈ s.getLast?, isBlank c = false) : trim s = s := by
  have drop_eq (t : List Char) (h : ∀ c ∈ t.head?, isBlank c = false) :
      t.dropWhile isBlank = t := by
    cases t with
    | nil => rfl
    | cons c t => simp [h c (by simp)]
  unfold trim
  rw [drop_eq s hhead, drop_eq s.reverse (by simpa using hlast), List.reverse_reverse]

theorem head?_dropWhile_isBlank (s : List Char) :
    ∀ c ∈ (s.dropWhile isBlank).head?, isBlank c = false := by
  intro c hc
  have hnot := List.head?_dropWhile_not isBlank s
  rw [Option.mem_def.1 hc] at hnot
  simpa using hnot

theorem head?_trim (s : List Char) : ∀ c ∈ (trim s).head?, isBlank c = false := by
  -- What is left is the beginning of what the first removal left.
  obtain ⟨rest, hrest⟩ : trim s <+: s.dropWhile isBlank := by
    have hsuffix := List.dropWhile_suffix isBlank (l := (s.dropWhile isBlank).reverse)
    rw [← List.reverse_prefix, List.reverse_reverse] at hsuffix
    exact hsuffix
  intro c hc
  refine head?_dropWhile_isBlank s c ?_
  rw [← hrest]
  cases htrim : trim s with
  | nil => simp [htrim] at hc
  | cons a cs => simpa [htrim] using hc

theorem getLast?_trim (s : List Char) : ∀ c ∈ (trim s).getLast?, isBlank c = false := by
  unfold trim
  rw [List.getLast?_reverse]
  exact head?_dropWhile_isBlank _

@[simp] theorem trim_trim (s : List Char) : trim (trim s) = trim s :=
  trim_eq_self (head?_trim s) (getLast?_trim s)

end Courier
