import Courier.Setup
import Courier.Cookie.Jar
import Courier.Lookup
import Mathlib.Data.List.Basic

/-!
# The session cookie in the header of a jar

A jar writes its cookies one after the other into a header, and a session looks for its cookie in
that text. Both agree as long as no name and no value can be taken for a separator, which is so for
whatever `Set-Cookie` lines leave behind.

* `Jar.Clean.applyLines`: whatever lines a jar takes, no name and no value in it is misleading.
* `Jar.get?_apply_of_ne`: a change of one cookie is no change of another.
* `extract_header`: **what is found in the header is what the jar holds.**
-/

namespace Courier

/-! ## Texts -/

/-- No part of a text that is split at a separator holds the separator. -/
theorem notMem_of_mem_splitOn {α : Type} [BEq α] [LawfulBEq α] {a : α} {s part : List α}
    (h : part ∈ s.splitOn a) : a ∉ part := by
  induction s generalizing part with
  | nil =>
    rw [List.splitOn_nil, List.mem_singleton] at h
    simp [h]
  | cons x s ih =>
    rw [List.splitOn_cons_eq_if_modifyHead] at h
    split at h
    · rcases List.mem_cons.1 h with rfl | h
      · simp
      · exact ih h
    · rename_i hx
      cases hs : s.splitOn a with
      | nil => exact absurd hs (List.splitOn_ne_nil a s)
      | cons first parts =>
        rw [hs] at h ih
        rcases List.mem_cons.1 h with rfl | h
        · have hfirst : a ∉ first := ih List.mem_cons_self
          have hne : x ≠ a := by simpa using hx
          simp [hfirst, hne.symm]
        · exact ih (List.mem_cons_of_mem _ h)

/-- Where a separator ends both texts, only a text itself begins with that text. -/
theorem concat_prefix_iff {α : Type} {a : α} {s t rest : List α} (hs : a ∉ s) (ht : a ∉ t) :
    s ++ [a] <+: t ++ a :: rest ↔ s = t := by
  induction s generalizing t with
  | nil =>
    cases t with
    | nil => simp
    | cons y t => simp_all
  | cons x s ih =>
    simp only [List.mem_cons, not_or] at hs
    cases t with
    | nil => simp [Ne.symm hs.1]
    | cons y t =>
      simp only [List.mem_cons, not_or] at ht
      simp [ih hs.2 ht.2]

/-- The text before a separator is read up to it. -/
theorem takeWhile_append_separated {α : Type} [DecidableEq α] {a : α} {s rest : List α}
    (hs : a ∉ s) (hrest : ∀ b ∈ rest.head?, b = a) :
    (s ++ rest).takeWhile (· ≠ a) = s := by
  have hstop : rest.takeWhile (· ≠ a) = [] := by
    cases rest with
    | nil => rfl
    | cons b rest => simp [hrest b rfl]
  rw [List.takeWhile_append_of_pos fun b hb => by simpa using fun h : b = a => hs (h ▸ hb), hstop,
    List.append_nil]

namespace Jar

variable {jar : Jar}

/-- The cookie that a change is about. -/
def Change.name : Change → String
  | .set name _ => name
  | .remove name => name

/-! ## What lines can leave in a jar -/

variable {name value line : String}

/-- A cookie that a line can set. -/
structure Settable (name value : String) : Prop where
  name_ne : name.toList ≠ []
  name_trim : trim name.toList = name.toList
  name_plain : '=' ∉ name.toList ∧ ';' ∉ name.toList
  value_trim : trim value.toList = value.toList
  value_plain : ';' ∉ value.toList

/-- A jar with nothing in it but what lines can set. -/
def Clean (jar : Jar) : Prop := ∀ c ∈ jar.cookies, Settable c.1 c.2

/-- What is before the first equals sign holds none, and nothing else is added. -/
theorem splitPair?_eq_some {cs a b : List Char} (h : splitPair? cs = some (a, b)) :
    cs = a ++ '=' :: b ∧ '=' ∉ a := by
  induction cs generalizing a with
  | nil => cases h
  | cons c cs ih =>
    rw [splitPair?] at h
    split at h
    · rename_i hc
      cases h
      simp [hc]
    · rename_i hc
      obtain ⟨⟨a', b'⟩, hsplit, heq⟩ := Option.map_eq_some_iff.1 h
      cases heq
      obtain ⟨rfl, hnot⟩ := ih hsplit
      simp [hnot, Ne.symm hc]

theorem settable_of_change? (h : change? line = some (.set name value)) : Settable name value := by
  unfold change? at h
  cases hparts : line.toList.splitOn ';' with
  | nil => simp [hparts] at h
  | cons pair attributes =>
    have hpair : ';' ∉ pair := notMem_of_mem_splitOn (hparts ▸ List.mem_cons_self)
    simp only [hparts] at h
    cases hsplit : splitPair? pair with
    | none => simp [hsplit] at h
    | some ab =>
      obtain ⟨a, b⟩ := ab
      obtain ⟨rfl, heq⟩ := splitPair?_eq_some hsplit
      simp only [List.mem_append, List.mem_cons, not_or] at hpair
      simp only [hsplit] at h
      split at h
      · cases h
      · rename_i hne
        split at h
        · cases h
        · cases h
          have htrim {s : List Char} {x : Char} (hx : x ∉ s) : x ∉ trim s :=
            fun hmem => hx ((trim_sublist s).subset hmem)
          refine ⟨by simpa using hne, ?_, by simp [htrim heq, htrim hpair.1], ?_,
            by simpa using htrim hpair.2.2⟩
          · rw [String.toList_ofList, trim_trim]
          · rw [String.toList_ofList, trim_trim]

theorem clean_empty : empty.Clean := nofun

theorem mem_replace {cookies : List (String × String)} {c : String × String}
    (h : c ∈ replace name value cookies) : c ∈ cookies ∨ c = (name, value) := by
  obtain ⟨d, hd, rfl⟩ := List.mem_map.1 h
  split
  · exact .inr rfl
  · exact .inl hd

theorem Clean.insert (h : jar.Clean) (hs : Settable name value) : (jar.insert name value).Clean := by
  intro c hc
  unfold Jar.insert at hc
  split at hc
  · rcases mem_replace hc with hc | rfl
    · exact h c hc
    · exact hs
  · rcases List.mem_append.1 hc with hc | hc
    · exact h c hc
    · rw [List.mem_singleton.1 hc]
      exact hs

theorem Clean.erase (h : jar.Clean) (name : String) : (jar.erase name).Clean :=
  fun c hc => h c (List.mem_of_mem_filter hc)

theorem Clean.applyLine (h : jar.Clean) (line : String) : (jar.applyLine line).Clean := by
  unfold Jar.applyLine
  cases hchange : change? line with
  | none => exact h
  | some change =>
    cases change with
    | set name value => exact h.insert (settable_of_change? hchange)
    | remove name => exact h.erase name

/-- **Whatever lines leave in a jar is clean.** -/
theorem Clean.applyLines (h : jar.Clean) (lines : List String) : (jar.applyLines lines).Clean := by
  induction lines generalizing jar with
  | nil => exact h
  | cons line lines ih => exact ih (h.applyLine line)

/-! ## Changes of one cookie -/

theorem lookup_replace (cookies : List (String × String)) (name value n : String) :
    (replace name value cookies).lookup n =
      if n = name then (cookies.lookup n).map fun _ => value else cookies.lookup n := by
  induction cookies with
  | nil => simp [replace]
  | cons c cookies ih =>
    rw [replace, List.map_cons, ← replace, lookup_cons_ite, lookup_cons_ite, ih]
    by_cases hc : c.1 = name
    · rw [if_pos hc, hc]
      by_cases hn : n = name <;> simp [hn]
    · rw [if_neg hc]
      by_cases hn : n = c.1 <;> simp [hn, hc]

theorem get?_insert (jar : Jar) (name value n : String) :
    (jar.insert name value).get? n = if n = name then some value else jar.get? n := by
  unfold insert get?
  split
  · rename_i hmem
    obtain ⟨old, hold⟩ := Option.isSome_iff_exists.1 (lookup_isSome_iff.2 hmem)
    simp only [lookup_replace]
    split
    · rename_i hn
      rw [hn, hold, Option.map_some]
    · rfl
  · rename_i hmem
    have hnone : jar.cookies.lookup name = none :=
      Option.not_isSome_iff_eq_none.1 fun h => hmem (lookup_isSome_iff.1 h)
    rw [List.lookup_append, lookup_cons_ite, List.lookup_nil]
    by_cases hn : n = name <;> simp [hn, hnone]

theorem get?_erase (jar : Jar) (name n : String) :
    (jar.erase name).get? n = if n = name then none else jar.get? n := by
  unfold erase get?
  dsimp only
  induction jar.cookies with
  | nil => simp
  | cons c cookies ih =>
    rw [lookup_cons_ite]
    by_cases hc : c.1 = name
    · rw [List.filter_cons_of_neg (by simpa using hc), ih, hc]
      by_cases hn : n = name <;> simp [hn]
    · rw [List.filter_cons_of_pos (by simpa using hc), lookup_cons_ite, ih]
      by_cases hn : n = c.1 <;> simp [hn, hc]

/-- **A change of one cookie is no change of another.** -/
theorem get?_apply_of_ne {change : Change} {n : String} (h : change.name ≠ n) (jar : Jar) :
    (jar.apply change).get? n = jar.get? n := by
  cases change with
  | set name value => exact (get?_insert jar name value n).trans (if_neg (Ne.symm h))
  | remove name => exact (get?_erase jar name n).trans (if_neg (Ne.symm h))

/-! ## The header -/

/-- A cookie as a header shows it. -/
def pair (c : String × String) : List Char := c.1.toList ++ '=' :: c.2.toList

/-- A cookie with the separator before it. -/
def laterPair (c : String × String) : List Char := ';' :: ' ' :: pair c

theorem toList_header (h : jar.cookies = []) : jar.header.toList = [] := by
  simp [header, h]

theorem intercalate_cons (sep first : List Char) (later : List (List Char)) :
    sep.intercalate (first :: later) = first ++ later.flatMap (sep ++ ·) := by
  induction later generalizing first with
  | nil => simp
  | cons next later ih => simp [List.intercalate_cons_cons, ih]

theorem toList_header_cons {c : String × String} {cookies : List (String × String)}
    (h : jar.cookies = c :: cookies) :
    jar.header.toList = pair c ++ cookies.flatMap laterPair := by
  have hlater : laterPair = fun c => ';' :: ' ' :: (c.1.toList ++ '=' :: c.2.toList) := rfl
  simp [header, h, String.toList_intercalate, intercalate_cons, List.flatMap_map, pair, hlater]

end Jar

namespace Session

open Jar

variable {jar : Jar} {name : String} {cookies : List (String × String)} {c : String × String}

/-- What follows a cookie in a header begins with a separator. -/
theorem head?_flatMap_laterPair (cookies : List (String × String)) :
    ∀ a ∈ (cookies.flatMap laterPair).head?, a = ';' := by
  cases cookies with
  | nil => simp
  | cons c cookies => simp [laterPair, eq_comm]

/-- **A cookie is found where it stands**, and no other cookie is taken for it. -/
theorem valueAt?_pair {s rest : List Char} (hs : '=' ∉ s) (hc : Settable c.1 c.2)
    (hrest : ∀ a ∈ rest.head?, a = ';') :
    valueAt? s (pair c ++ rest) = if s = c.1.toList then some c.2.toList else none := by
  have hstart : (s ++ ['=']).isPrefixOf (pair c ++ rest) = true ↔ s = c.1.toList := by
    rw [List.isPrefixOf_iff_prefix, pair, List.append_assoc, List.cons_append,
      concat_prefix_iff hs hc.name_plain.1]
  unfold valueAt?
  by_cases heq : s = c.1.toList
  · have hvalue : (c.2.toList ++ rest).takeWhile (· ≠ ';') = c.2.toList :=
      takeWhile_append_separated hc.value_plain hrest
    rw [if_pos (hstart.2 heq), if_pos heq, heq, pair]
    simpa using hvalue
  · rw [if_neg (mt hstart.1 heq), if_neg heq]

/-- Nothing is found before the next separator. -/
theorem laterValue?_append {s t : List Char} (ht : ';' ∉ t) (rest : List Char) :
    laterValue? s (t ++ rest) = laterValue? s rest := by
  induction t with
  | nil => rfl
  | cons a t ih =>
    simp only [List.mem_cons, not_or] at ht
    rw [List.cons_append, laterValue?, if_neg (Ne.symm ht.1), ih ht.2]

theorem notMem_pair (hc : Settable c.1 c.2) : ';' ∉ pair c := by
  simp [pair, hc.name_plain.2, hc.value_plain]

/-- After a separator the blank is skipped, and no more than that. -/
theorem dropWhile_pair (hc : Settable c.1 c.2) (rest : List Char) :
    (' ' :: pair c ++ rest).dropWhile isBlank = pair c ++ rest := by
  obtain ⟨a, name, hname⟩ := List.exists_cons_of_ne_nil hc.name_ne
  have hhead : isBlank a = false := by
    refine head?_trim c.1.toList a ?_
    rw [hc.name_trim, hname]
    rfl
  have hblank : isBlank ' ' = true := by decide
  simp [pair, hname, hhead, hblank]

/-- **The later cookies** are looked through in their order. -/
theorem laterValue?_flatMap (hname : '=' ∉ name.toList)
    (hcookies : ∀ c ∈ cookies, Settable c.1 c.2) :
    laterValue? name.toList (cookies.flatMap laterPair) =
      (cookies.lookup name).map String.toList := by
  induction cookies with
  | nil => rfl
  | cons c cookies ih =>
    obtain ⟨hc, hcookies⟩ := List.forall_mem_cons.1 hcookies
    -- The cookie begins right after the blank of its separator, as no name begins with a blank.
    have hvalue := valueAt?_pair hname hc (head?_flatMap_laterPair cookies)
    have hblanks := dropWhile_pair hc (cookies.flatMap laterPair)
    rw [List.cons_append] at hblanks
    rw [List.flatMap_cons, laterPair, List.cons_append, List.cons_append, laterValue?, if_pos rfl,
      hblanks, hvalue, lookup_cons_ite]
    by_cases heq : name = c.1
    · simp [heq]
    · -- Another cookie holds no separator, so the search goes on behind it.
      have hne : name.toList ≠ c.1.toList := mt String.toList_inj.1 heq
      have hlater : laterValue? name.toList (' ' :: (pair c ++ cookies.flatMap laterPair)) =
          laterValue? name.toList (cookies.flatMap laterPair) :=
        laterValue?_append (t := ' ' :: pair c) (by simp [notMem_pair hc]) _
      simp [heq, hne, hlater, ih hcookies]

/-- **What is found in the header is what the jar holds.** -/
theorem extract_header (hname : '=' ∉ name.toList) (hjar : jar.Clean) :
    extract name jar.header = jar.get? name := by
  unfold extract get?
  cases hcookies : jar.cookies with
  | nil =>
    simp [toList_header hcookies, valueAt?, laterValue?]
  | cons c cookies =>
    rw [Jar.Clean, hcookies] at hjar
    obtain ⟨hc, hlater⟩ := List.forall_mem_cons.1 hjar
    simp only [toList_header_cons hcookies,
      valueAt?_pair hname hc (head?_flatMap_laterPair cookies),
      laterValue?_append (notMem_pair hc), laterValue?_flatMap hname hlater, lookup_cons_ite]
    by_cases heq : name = c.1
    · simp [heq]
    · have hne : name.toList ≠ c.1.toList := mt String.toList_inj.1 heq
      simp [heq, hne]

/-- The name of a session has no equals sign. -/
theorem notMem_of_open {s : Session} (h : Session.open name = .ok s) : '=' ∉ name.toList := by
  unfold Session.open at h
  split at h
  · cases h
  · rename_i hvalid
    simp only [Bool.not_eq_true', Bool.not_eq_false, isValidName, Bool.and_eq_true,
      List.any_eq_false] at hvalid
    intro hmem
    simpa using hvalid.2 '=' hmem

end Session

/-- **The session cookie is found** in whatever lines leave in a jar: what the session reads in the
header is what the jar holds under its name. So a line for another cookie never changes it. -/
theorem session_cookie_found {name : String} {session : Session}
    (hname : Session.open name = .ok session) (lines : List String) :
    let jar := Jar.empty.applyLines lines
    Session.extract name jar.header = jar.get? name ∧
      ∀ line, (∀ change ∈ Jar.change? line, change.name ≠ name) →
        Session.extract name (jar.applyLine line).header = Session.extract name jar.header := by
  intro jar
  have hplain := Session.notMem_of_open hname
  have hjar : jar.Clean := Jar.clean_empty.applyLines lines
  refine ⟨Session.extract_header hplain hjar, fun line hline => ?_⟩
  rw [Session.extract_header hplain hjar, Session.extract_header hplain (hjar.applyLine line)]
  unfold Jar.applyLine
  cases hchange : Jar.change? line with
  | none => rfl
  | some change => exact Jar.get?_apply_of_ne (hline change hchange) jar

/-- Cookies whose names and values look like the session, with an empty value and with blanks of
many kinds between them. -/
theorem session_cookie_found_lookalikes :
    let lines := ["xsid=1; sid=2", "a=sid=3", "b=;sid=4", "sid.=5", "sid\u2003= \u3000x = y\tz ;;",
      "Sid=6", " \u00A0c d = sid=7"]
    let jar := Jar.empty.applyLines lines
    Session.open "sid" = .ok (.new "sid") ∧
      jar.header = "xsid=1; a=sid=3; b=; sid.=5; sid=x = y\tz; Sid=6; c d=sid=7" ∧
      jar.get? "sid" = some "x = y\tz" ∧
      Session.extract "sid" jar.header = some "x = y\tz" ∧
      Session.extract "sid" (jar.applyLine "sid2=8; sid=9").header = some "x = y\tz" := by
  intro lines jar
  have hvalid : Session.isValidName "sid" = true := by decide +kernel
  have hfits : ¬ Session.matcherLimit < Session.matcherSize "sid" := by decide +kernel
  have hopen : Session.open "sid" = .ok (.new "sid") := by
    simp only [Session.open, hvalid, hfits, Bool.not_true, Bool.false_eq_true, if_false]
  have hget : jar.get? "sid" = some "x = y\tz" := by decide +kernel
  obtain ⟨hfound, hother⟩ := session_cookie_found hopen lines
  have hchange : Jar.change? "sid2=8; sid=9" = some (.set "sid2" "8") := by decide +kernel
  refine ⟨hopen, by decide +kernel, hget, hfound.trans hget, ?_⟩
  refine (hother "sid2=8; sid=9" ?_).trans (hfound.trans hget)
  simp [hchange, Jar.Change.name]

end Courier
