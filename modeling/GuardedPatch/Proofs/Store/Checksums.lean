import GuardedPatch.Store.Migration
import Mathlib.Data.List.Basic

set_option autoImplicit false

/-! # What a checksum sees

The checksum of a text is taken over its lines, each ended by a line feed. Put together, these lines are the text
itself, less the carriage returns right before line feeds and with its last line ended (`flatMap_textLines`): splitting
into lines loses nothing else, wherever there are empty lines and however the text ends.

So two texts without carriage returns have the same lines exactly if they differ in a last line feed at most. -/

namespace GuardedPatch

/-! ## Ends of lines -/

/-- Characters with a carriage return put before some of the line feeds: those at the chosen places. -/
def putReturns : (Nat → Bool) → List Char → List Char
  | _, [] => []
  | chosen, c :: rest =>
    let following := putReturns (fun place => chosen (place + 1)) rest
    if c = '\n' ∧ chosen 0 = true then '\r' :: '\n' :: following else c :: following

/-- Characters without the carriage returns that stand right before line feeds. -/
def dropReturns : List Char → List Char
  | [] => []
  | '\r' :: '\n' :: rest => '\n' :: dropReturns rest
  | c :: rest => c :: dropReturns rest

/-- Characters with a line feed after them, unless there are none or the last one is a line feed. -/
def addFinalFeed (cs : List Char) : List Char :=
  if cs = [] ∨ cs.getLast? = some '\n' then cs else cs ++ ['\n']

theorem dropReturns_cons {c : Char} {rest : List Char} (h : ∀ tail, c = '\r' → rest ≠ '\n' :: tail) :
    dropReturns (c :: rest) = c :: dropReturns rest := by
  rw [dropReturns]
  exact h

theorem dropReturns_ne_nil {cs : List Char} (h : cs ≠ []) : dropReturns cs ≠ [] := by
  fun_cases dropReturns cs with
  | case1 => exact h
  | case2 rest => exact List.cons_ne_nil _ _
  | case3 c rest hother => exact List.cons_ne_nil _ _

theorem addFinalFeed_cons {c : Char} {rest : List Char} (h : rest ≠ [] ∨ c = '\n') :
    addFinalFeed (c :: rest) = c :: addFinalFeed rest := by
  cases rest with
  | nil =>
      obtain rfl : c = '\n' := h.resolve_left (fun hne => hne rfl)
      rfl
  | cons d tail =>
      simp only [addFinalFeed, List.cons_ne_nil, false_or, List.getLast?_cons_cons]
      split <;> rfl

theorem dropReturns_of_not_mem {cs : List Char} (h : '\r' ∉ cs) : dropReturns cs = cs := by
  induction cs with
  | nil => rfl
  | cons c rest ih =>
      rw [List.mem_cons, not_or] at h
      rw [dropReturns_cons fun _ hc => absurd hc.symm h.1, ih h.2]

theorem dropReturns_putReturns {cs : List Char} (h : '\r' ∉ cs) (chosen : Nat → Bool) :
    dropReturns (putReturns chosen cs) = cs := by
  -- places are counted anew from each character on, so that the choice varies
  induction cs generalizing chosen with
  | nil => rfl
  | cons c rest ih =>
      rw [List.mem_cons, not_or] at h
      rw [putReturns]
      split_ifs with hput
      · rw [dropReturns, ih h.2, hput.1]
      · rw [dropReturns_cons fun _ hc => absurd hc.symm h.1, ih h.2]

/-! ## Lines -/

theorem textLines_eq_nil_iff {cs : List Char} : textLines cs = [] ↔ cs = [] := by
  fun_cases textLines cs <;> simp_all

/-- **The lines of a text, put together again, are the text**: only returns before line feeds are lost, and a line feed
    is added to a last line without one. -/
theorem flatMap_textLines (cs : List Char) :
    (textLines cs).flatMap (· ++ ['\n']) = addFinalFeed (dropReturns cs) := by
  fun_induction textLines cs with
  | case1 => rfl
  | case2 rest ih =>
      rw [List.flatMap_cons, ih, dropReturns_cons (by simp), addFinalFeed_cons (.inr rfl)]
      rfl
  | case3 rest ih =>
      rw [List.flatMap_cons, ih, dropReturns, addFinalFeed_cons (.inr rfl)]
      rfl
  | case4 c rest hfeed hreturn hnone ih =>
      -- the last character, which is no line feed, or else it would have ended its line
      obtain rfl := textLines_eq_nil_iff.1 hnone
      have hlast : c ≠ '\n' := hfeed
      simp [dropReturns, addFinalFeed, hlast]
  | case5 c rest hfeed hreturn line lines hlines ih =>
      have hrest : rest ≠ [] := by
        rintro rfl
        cases hlines
      rw [dropReturns_cons hreturn, addFinalFeed_cons (.inl (dropReturns_ne_nil hrest)), ← ih, hlines]
      rfl

/-! ## Checksums -/

/-- Two texts are checksummed alike exactly if they are the same but for returns before line feeds and for a last line
    feed. -/
theorem checksummed_toUTF8_eq_iff {s t : String} :
    (checksummed s).toUTF8 = (checksummed t).toUTF8 ↔
      addFinalFeed (dropReturns s.toList) = addFinalFeed (dropReturns t.toList) := by
  rw [String.toUTF8_eq_toByteArray, String.toUTF8_eq_toByteArray, String.toByteArray_inj, checksummed, checksummed,
    flatMap_textLines, flatMap_textLines, String.ofList_inj]

/-- **Checksums ignore line ends and nothing else.** Take a text without carriage returns.
    - A carriage return may be put before any of its line feeds: what is hashed stays the same, byte by byte, and so
      does the checksum.
    - The same bytes are hashed for another text without carriage returns exactly if both texts are the same once a
      line feed is added to each that is not empty and does not end in one. So the checksums of two such texts that
      differ in more than that are different, unless two different runs of bytes with one SHA-256 digest have been
      found. -/
theorem checksums_ignore_line_ends {t : String} (ht : '\r' ∉ t.toList) :
    (∀ chosen : Nat → Bool,
        let u := String.ofList (putReturns chosen t.toList)
        (checksummed u).toUTF8 = (checksummed t).toUTF8 ∧ checksum u = checksum t)
      ∧ ∀ t' : String, '\r' ∉ t'.toList →
        ((checksummed t).toUTF8 = (checksummed t').toUTF8 ↔ addFinalFeed t.toList = addFinalFeed t'.toList)
          ∧ (checksum t = checksum t' ↔ addFinalFeed t.toList = addFinalFeed t'.toList
            ∨ (checksummed t).toUTF8 ≠ (checksummed t').toUTF8
              ∧ Hash.sha256 (checksummed t) = Hash.sha256 (checksummed t')) := by
  constructor
  · intro chosen u
    have hbytes : (checksummed u).toUTF8 = (checksummed t).toUTF8 := by
      rw [checksummed_toUTF8_eq_iff, String.toList_ofList, dropReturns_putReturns ht, dropReturns_of_not_mem ht]
    refine ⟨hbytes, ?_⟩
    rw [checksum, checksum, Hash.sha256, Hash.sha256, hbytes]
  · intro t' ht'
    have hbytes : (checksummed t).toUTF8 = (checksummed t').toUTF8 ↔
        addFinalFeed t.toList = addFinalFeed t'.toList := by
      rw [checksummed_toUTF8_eq_iff, dropReturns_of_not_mem ht, dropReturns_of_not_mem ht']
    refine ⟨hbytes, ?_⟩
    rw [← hbytes, checksum, checksum]
    constructor
    · intro hsum
      by_cases hsame : (checksummed t).toUTF8 = (checksummed t').toUTF8
      · exact .inl hsame
      · exact .inr ⟨hsame, hsum⟩
    · rintro (hsame | ⟨-, hsum⟩)
      · rw [Hash.sha256, Hash.sha256, hsame]
      · exact hsum

/-- A text with an empty line and without a last line feed, with the second of its line feeds replaced, with a last line
    feed, and without the empty line. -/
theorem checksums_ignore_line_ends_empty_line :
    '\r' ∉ "a\n\nb".toList
      ∧ (checksummed "a\n\r\nb").toUTF8 = (checksummed "a\n\nb").toUTF8
      ∧ (checksummed "a\n\nb").toUTF8 = (checksummed "a\n\nb\n").toUTF8
      ∧ (checksummed "a\n\nb").toUTF8 ≠ (checksummed "a\nb").toUTF8 := by
  have hreturns : '\r' ∉ "a\n\nb".toList := by decide
  obtain ⟨hreplaced, hothers⟩ := checksums_ignore_line_ends hreturns
  refine ⟨hreturns, (hreplaced fun place => place == 2).1, ?_, ?_⟩
  · rw [(hothers "a\n\nb\n" (by decide)).1]
    decide
  · rw [ne_eq, (hothers "a\nb" (by decide)).1]
    decide

end GuardedPatch
