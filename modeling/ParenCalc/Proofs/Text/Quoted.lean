import ParenCalc.Text.Quoted

/-!
This module contains that a text can be read back from its quoted form, in which every character has
a visible form.
-/

namespace ParenCalc

namespace Text

theorem hexDigits_succ (width n : Nat) :
    hexDigits (width + 1) n = hexDigit (n >>> (4 * width) % 16) :: hexDigits width n := by
  simp [hexDigits, List.range_succ]

theorem length_hexDigits (width n : Nat) : (hexDigits width n).length = width := by
  simp [hexDigits]

def hexValue (c : Char) : Nat :=
  if c.isDigit then c.toNat - 48 else c.toNat - 87

def readHex (digits : List Char) : Nat :=
  digits.foldl (fun value c => 16 * value + hexValue c) 0

theorem hexValue_hexDigit {n : Nat} (h : n < 16) : hexValue (hexDigit n) = n := by
  revert n
  decide

theorem isPrintable_hexDigit {n : Nat} (h : n < 16) : isPrintable (hexDigit n) = true := by
  revert n
  decide

theorem foldl_hexDigits (width n value : Nat) :
    (hexDigits width n).foldl (fun value c => 16 * value + hexValue c) value =
      value * Nat.pow 16 width + n % Nat.pow 16 width := by
  induction width generalizing value with
  | zero => simp [hexDigits, Nat.mod_one]
  | succ width ih =>
    have hplace : n >>> (4 * width) = n / Nat.pow 16 width := by
      rw [Nat.shiftRight_eq_div_pow, Nat.pow_mul]
      rfl
    have hpow : Nat.pow 16 (width + 1) = Nat.pow 16 width * 16 := rfl
    rw [hexDigits_succ, List.foldl_cons, ih, hexValue_hexDigit (Nat.mod_lt _ (by decide)), hplace,
      hpow, Nat.mod_mul, Nat.add_mul, Nat.mul_comm 16 value, Nat.mul_assoc, Nat.mul_comm 16,
      Nat.mul_comm (_ % 16)]
    omega

theorem readHex_hexDigits (width n : Nat) : readHex (hexDigits width n) = n % Nat.pow 16 width := by
  unfold readHex
  rw [foldl_hexDigits, Nat.zero_mul, Nat.zero_add]

namespace Quoted

def width? : Char → Option Nat
  | 'x' => some 2
  | 'u' => some 4
  | 'U' => some 8
  | _ => none

def unmark : Char → Char
  | 'n' => '\n'
  | 'r' => '\r'
  | 't' => '\t'
  | c => c

def unescape : List Char → Option (Char × List Char)
  | '\\' :: mark :: rest =>
    match width? mark with
    | some width => some (Char.ofNat (readHex (rest.take width)), rest.drop width)
    | none => some (unmark mark, rest)
  | c :: rest => some (c, rest)
  | [] => none

inductive Escapes (c : Char) : (escaped : List Char) → Prop
  | visible (hc : isPrintable c = true) (hbackslash : c ≠ '\\') : Escapes c [c]
  | marked (mark : Char) (hmark : isPrintable mark = true) (hwidth : width? mark = none)
      (hc : unmark mark = c) :
      Escapes c ['\\', mark]
  | digits (mark : Char) (width : Nat) (hmark : isPrintable mark = true)
      (hwidth : width? mark = some width)
      (hc : c.toNat < Nat.pow 16 width) : Escapes c ('\\' :: mark :: hexDigits width c.toNat)

variable {delimiter c : Char} {escaped : List Char}

theorem escapes_escape (h : delimiter ∈ ['\'', '"']) (c : Char) :
    Escapes c (escape delimiter c) := by
  unfold escape
  split
  . next hc =>
    have hmark : c ∈ ['\'', '"', '\\'] := by
      rcases hc with rfl | rfl
      . exact List.mem_append_left ['\\'] h
      . decide
    simp only [List.mem_cons, List.not_mem_nil, or_false] at hmark
    rcases hmark with rfl | rfl | rfl
    . exact .marked _ (by decide) rfl rfl
    . exact .marked _ (by decide) rfl rfl
    . exact .marked _ (by decide) rfl rfl
  . next hc =>
    split
    . next hfeed => exact .marked _ (by decide) rfl hfeed.symm
    . split
      . next hreturn => exact .marked _ (by decide) rfl hreturn.symm
      . split
        . next htab => exact .marked _ (by decide) rfl htab.symm
        . split
          . next hprintable => exact .visible hprintable (fun hbackslash => hc (.inr hbackslash))
          . split
            . next hsmall => exact .digits _ _ (by decide) rfl hsmall
            . split
              . next hmiddle => exact .digits _ _ (by decide) rfl hmiddle
              . exact .digits _ _ (by decide) rfl c.val.toNat_lt

theorem unescape_of_ne (h : c ≠ '\\') (rest : List Char) :
    unescape (c :: rest) = some (c, rest) := by
  unfold unescape
  split
  . next heq => exact absurd (List.cons.inj heq).1 h
  . next heq => rw [(List.cons.inj heq).1, (List.cons.inj heq).2]
  . next heq => cases heq

theorem Escapes.unescape_append (h : Escapes c escaped) (rest : List Char) :
    unescape (escaped ++ rest) = some (c, rest) := by
  cases h with
  | visible _ hbackslash => exact unescape_of_ne hbackslash rest
  | marked mark _ hwidth hc =>
    simp only [List.cons_append, List.nil_append, unescape, hwidth, hc]
  | digits mark width _ hwidth hc =>
    simp only [List.cons_append, unescape, hwidth]
    rw [List.take_left' (length_hexDigits _ _), List.drop_left' (length_hexDigits _ _),
      readHex_hexDigits, Nat.mod_eq_of_lt hc, Char.ofNat_toNat]

theorem Escapes.isPrintable_of_mem (h : Escapes c escaped) :
    ∀ d ∈ escaped, isPrintable d = true := by
  have hbackslash : isPrintable '\\' = true := by decide
  cases h with
  | visible hc => simpa using hc
  | marked mark hmark => simp [hmark, hbackslash]
  | digits mark width hmark =>
    rw [List.forall_mem_cons, List.forall_mem_cons]
    refine ⟨hbackslash, hmark, ?_⟩
    intro d hd
    obtain ⟨place, -, rfl⟩ := List.mem_map.mp hd
    exact isPrintable_hexDigit (Nat.mod_lt _ (by decide))

theorem mem_delimiter (text : List Char) : Quoted.delimiter text ∈ ['\'', '"'] := by
  unfold Quoted.delimiter
  split <;> decide

theorem flatMap_escape_injective (h : delimiter ∈ ['\'', '"']) {text text' : List Char}
    (heq : text.flatMap (escape delimiter) = text'.flatMap (escape delimiter)) : text = text' := by
  have hread (c : Char) (text : List Char) :
      unescape ((c :: text).flatMap (escape delimiter)) =
        some (c, text.flatMap (escape delimiter)) :=
    (escapes_escape h c).unescape_append _
  induction text generalizing text' with
  | nil =>
    cases text' with
    | nil => rfl
    | cons c' text' =>
      have hnothing := hread c' text'
      rw [← heq] at hnothing
      cases hnothing
  | cons c text ih =>
    have hfirst := hread c text
    rw [heq] at hfirst
    cases text' with
    | nil => cases hfirst
    | cons c' text' =>
      obtain ⟨rfl, hrest⟩ := Prod.mk.inj (Option.some.inj ((hread c' text').symm.trans hfirst))
      rw [ih hrest.symm]

end Quoted

open Quoted

theorem quote_injective {text text' : String} (h : quote text = quote text') : text = text' := by
  have hchars : quoteChars text.toList = quoteChars text'.toList := by
    rw [← toList_quote, h, toList_quote]
  obtain ⟨hdelimiter, hrest⟩ := List.cons.inj hchars
  rw [hdelimiter] at hrest
  have hbody := List.append_cancel_right hrest
  exact String.toList_inj.mp (flatMap_escape_injective (mem_delimiter _) hbody)

theorem isPrintable_of_mem_quote {text : String} {c : Char} (h : c ∈ (quote text).toList) :
    isPrintable c = true := by
  have hdelimiter := mem_delimiter text.toList
  have hends : isPrintable (delimiter text.toList) = true := by
    have hboth : ['\'', '"'].all isPrintable = true := rfl
    exact List.all_eq_true.mp hboth _ hdelimiter
  rw [toList_quote, quoteChars, List.cons_append, List.mem_cons, List.mem_append,
    List.mem_singleton, List.mem_flatMap] at h
  rcases h with rfl | ⟨d, -, hd⟩ | rfl
  . exact hends
  . exact (escapes_escape hdelimiter d).isPrintable_of_mem c hd
  . exact hends

end Text

end ParenCalc
