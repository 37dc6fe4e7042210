import Spiderworks.Proofs.Json.Compact
import Spiderworks.Proofs.Script.Language

namespace Spiderworks.Script

open Spiderworks.Text

variable {c : Char} {s t : List Char} {names : List Char → Option Nat}

-- ### The inside of a literal

theorem codePoints_cons (hc : c ≠ '\\') (t : List Char) :
    codePoints names .between (c :: t) = (codePoints names .between t).map (c.toNat :: ·) := by
  rw [codePoints, if_neg hc]

theorem codePoints_named {d : Char} {n : Nat} (h : namedEscape? d = some n) (t : List Char) :
    codePoints names .between ('\\' :: d :: t) = (codePoints names .between t).map (n :: ·) := by
  rw [codePoints, if_pos rfl, codePoints, h]

-- A digit that is not the last one.
theorem codePoints_hexDigit {d left value : Nat} (hd : d < 16) (hl : 1 < left) (t : List Char) :
    codePoints names (.hex left value) (hexDigit d :: t) =
      codePoints names (.hex (left - 1) (value * 16 + d)) t := by
  rw [codePoints, Json.hexValue?_hexDigit d hd]
  exact if_pos hl

theorem codePoints_lastDigit {d value : Nat} (hd : d < 16) (hv : value * 16 + d < 0x110000)
    (t : List Char) : codePoints names (.hex 1 value) (hexDigit d :: t) =
      (codePoints names .between t).map ((value * 16 + d) :: ·) := by
  rw [codePoints, Json.hexValue?_hexDigit d hd]
  simp only [Nat.lt_irrefl, ↓reduceIte, hv]

theorem codePoints_control (hc : c.toNat < 32) (t : List Char) :
    codePoints names .between (['\\', 'u', '0', '0'] ++ hexByte c.toNat ++ t) =
      (codePoints names .between t).map (c.toNat :: ·) := by
  have hhigh : c.toNat / 16 % 16 < 16 := Nat.mod_lt _ (by decide)
  have hlow : c.toNat % 16 < 16 := Nat.mod_lt _ (by decide)
  have hvalue : c.toNat / 16 % 16 * 16 + c.toNat % 16 = c.toNat := by omega
  have hstart : codePoints names .between (['\\', 'u', '0', '0'] ++ hexByte c.toNat ++ t) =
      codePoints names (.hex 4 0) ('0' :: '0' :: (hexByte c.toNat ++ t)) := rfl
  rw [hstart, hexByte, List.cons_append, List.cons_append, List.nil_append,
    show '0' = hexDigit 0 by decide, codePoints_hexDigit (by decide) (by decide),
    codePoints_hexDigit (by decide) (by decide), codePoints_hexDigit hhigh (by decide),
    codePoints_lastDigit hlow (by omega)]
  simp only [Nat.zero_mul, Nat.zero_add, hvalue]

-- ### What the printer writes out

-- A character is written by an escape that has a name, by a code of four digits, or as it is.
theorem escapeChar_cases (c : Char) :
    (∃ d, Json.escapeChar c = ['\\', d] ∧ namedEscape? d = some c.toNat) ∨
      (c.toNat < 32 ∧ Json.escapeChar c = ['\\', 'u', '0', '0'] ++ hexByte c.toNat) ∨
      (c ≠ '"' ∧ c ≠ '\\' ∧ Json.escapeChar c = [c]) := by
  unfold Json.escapeChar
  split
  · rename_i hc
    exact .inl ⟨'"', rfl, by rw [hc]; rfl⟩
  split
  · rename_i hc
    exact .inl ⟨'\\', rfl, by rw [hc]; rfl⟩
  split
  · rename_i hc
    exact .inl ⟨'n', rfl, by rw [hc]; rfl⟩
  split
  · rename_i hc
    exact .inl ⟨'r', rfl, by rw [hc]; rfl⟩
  split
  · rename_i hc
    exact .inl ⟨'t', rfl, by rw [hc]; rfl⟩
  split
  · rename_i hc
    exact .inl ⟨'b', rfl, by rw [hc]; rfl⟩
  split
  · rename_i hc
    exact .inl ⟨'f', rfl, by rw [hc]; rfl⟩
  split
  · rename_i hc
    exact .inr (.inl ⟨hc, rfl⟩)
  · rename_i hquote hback _ _ _ _ _ _
    exact .inr (.inr ⟨hquote, hback, rfl⟩)

theorem codePoints_escapeChar (c : Char) (t : List Char) :
    codePoints names .between (Json.escapeChar c ++ t) =
      (codePoints names .between t).map (c.toNat :: ·) := by
  rcases escapeChar_cases c with ⟨d, hd, hname⟩ | ⟨hc, hd⟩ | ⟨-, hback, hd⟩
  · rw [hd]
    exact codePoints_named hname t
  · rw [hd]
    exact codePoints_control hc t
  · rw [hd]
    exact codePoints_cons hback t

theorem codePoints_escaped (s : List Char) :
    codePoints names .between (s.flatMap Json.escapeChar) = some (s.map Char.toNat) := by
  induction s with
  | nil => rfl
  | cons c s ih => rw [List.flatMap_cons, codePoints_escapeChar, ih, Option.map_some, List.map_cons]

theorem untilQuote_cons (hquote : c ≠ '"') (hback : c ≠ '\\') (t : List Char) :
    untilQuote (c :: t) = (untilQuote t).map fun r => (c :: r.1, r.2) := by
  rw [untilQuote.eq_4 c t hquote fun d r hd => absurd hd hback]

theorem untilQuote_escapeChar (c : Char) (t : List Char) :
    untilQuote (Json.escapeChar c ++ t) =
      (untilQuote t).map fun r => (Json.escapeChar c ++ r.1, r.2) := by
  have digit : ∀ k < 16, hexDigit k ≠ '"' ∧ hexDigit k ≠ '\\' := by decide
  rcases escapeChar_cases c with ⟨d, hd, -⟩ | ⟨-, hd⟩ | ⟨hquote, hback, hd⟩
  · rw [hd]
    rfl
  · obtain ⟨hq, hb⟩ := digit (c.toNat / 16 % 16) (Nat.mod_lt _ (by decide))
    obtain ⟨hq', hb'⟩ := digit (c.toNat % 16) (Nat.mod_lt _ (by decide))
    rw [hd]
    simp only [hexByte, List.cons_append, List.nil_append, untilQuote,
      untilQuote_cons (c := '0') (by decide) (by decide), untilQuote_cons hq hb,
      untilQuote_cons hq' hb', Option.map_map]
    rfl
  · rw [hd]
    exact untilQuote_cons hquote hback t

theorem untilQuote_escaped (s t : List Char) :
    untilQuote (s.flatMap Json.escapeChar ++ '"' :: t) = some (s.flatMap Json.escapeChar, t) := by
  induction s with
  | nil => rfl
  | cons c s ih =>
      rw [List.flatMap_cons, List.append_assoc, untilQuote_escapeChar, ih]
      rfl

-- ### Literals

-- No text begins with the quote that would close its literal.
theorem escaped_head (s : List Char) : s.flatMap Json.escapeChar = [] ∨
    ∃ c r, s.flatMap Json.escapeChar = c :: r ∧ c ≠ '"' := by
  cases s with
  | nil => exact .inl rfl
  | cons c s =>
      rw [List.flatMap_cons]
      rcases escapeChar_cases c with ⟨d, hd, -⟩ | ⟨-, hd⟩ | ⟨hquote, -, hd⟩
      · exact .inr ⟨'\\', _, by rw [hd]; rfl, by decide⟩
      · exact .inr ⟨'\\', _, by rw [hd]; rfl, by decide⟩
      · exact .inr ⟨c, _, by rw [hd]; rfl, hquote⟩

theorem inside?_quoted (s : List Char) :
    inside? (Json.quoted s) = some (s.flatMap Json.escapeChar) := by
  have huntil := untilQuote_escaped s []
  have hquoted : Json.quoted s = '"' :: (s.flatMap Json.escapeChar ++ ['"']) := rfl
  rw [hquoted]
  rcases escaped_head s with hs | ⟨c, r, hs, hc⟩
  · rw [hs]
    rfl
  · rw [hs, List.cons_append] at huntil ⊢
    rw [inside?.eq_2 _ fun t ht => hc (List.cons.inj ht).1, huntil]

theorem literalValue?_quoted (names : List Char → Option Nat) (s : List Char) :
    literalValue? names (Json.quoted s) = some (s.map Char.toNat) := by
  have hnul : '\x00' ∉ Json.quoted s := fun hc =>
    absurd (Json.control_of_mem_quoted hc) (by decide)
  rw [literalValue?, if_neg hnul, inside?_quoted, Option.bind_some, codePoints_escaped]

theorem EndsNoLine.literal (text : String) : EndsNoLine (literal text) := by
  intro c hc
  have hcontrol := Json.control_of_mem_quoted hc
  constructor <;> (rintro rfl; exact absurd hcontrol (by decide))

theorem EndsNoLine.ofInt (n : Int) : EndsNoLine (Text.ofInt n) := by
  intro c hc
  have hspace := Json.isSpace_of_mem_number (n := .whole n) c hc
  constructor <;> (rintro rfl; cases hspace)

-- ### Scripts

-- What follows the constants of a script.
def Sections.rest (s : Sections) : List Char :=
  s.helpers.flatMap (fun h => '\n' :: '\n' :: unlines h) ++ guardStart ++ indentBody s.body ++
    indent ++ "pass\n".toList ++ unlines s.epilogue ++ unlines s.handler

-- Behind the imports each constant has a line of its own. Text and configuration are there as
-- literals which stand for just that text and for the compact text of the configuration, and all
-- the other lines are the same for every text and configuration.
theorem constants_stand (names : List Char → Option Nat) (mode : RunMode) (body : String) :
    ∃ after, ∀ (spider : Int) (execution : String) (config : Json), ∃ e c,
      physicalLines (Sections.make mode spider execution config body).render =
        imports.map String.toList ++ [] :: ("SPIDER_ID = ".toList ++ Text.ofInt spider) ::
          ("EXECUTION_ID = ".toList ++ e) :: ("SPIDER_CONFIG_JSON = ".toList ++ c) :: after ∧
      literalValue? names e = some (execution.toList.map Char.toNat) ∧
      literalValue? names c = some ((Json.compact config).toList.map Char.toNat) := by
  refine ⟨physicalLines (Sections.make mode 0 "" .null body).rest,
    fun spider execution config => ⟨literal execution, literal (Json.compact config), ?_,
      literalValue?_quoted names _, literalValue?_quoted names _⟩⟩
  have himports : ∀ l ∈ imports, EndsNoLine l.toList := by decide
  have hrender : (Sections.make mode spider execution config body).render = unlines imports ++
      ([] ++ '\n' :: (("SPIDER_ID = ".toList ++ Text.ofInt spider) ++ '\n' ::
        (("EXECUTION_ID = ".toList ++ literal execution) ++ '\n' ::
          (("SPIDER_CONFIG_JSON = ".toList ++ literal (Json.compact config)) ++ '\n' ::
            (Sections.make mode 0 "" .null body).rest)))) := by
    simp only [show "SPIDER_ID = ".toList = "SPIDER_ID".toList ++ " = ".toList from rfl,
      show "EXECUTION_ID = ".toList = "EXECUTION_ID".toList ++ " = ".toList from rfl,
      show "SPIDER_CONFIG_JSON = ".toList = "SPIDER_CONFIG_JSON".toList ++ " = ".toList from rfl,
      Sections.render, Sections.rest, Sections.make, runConstants, constantLine,
      List.flatMap_cons, List.flatMap_nil, List.append_assoc, List.cons_append, List.nil_append]
  rw [hrender, physicalLines_unlines himports, physicalLines_line .nil,
    physicalLines_line (.append (by decide) (.ofInt spider)),
    physicalLines_line (.append (by decide) (.literal execution)),
    physicalLines_line (.append (by decide) (.literal _))]

end Spiderworks.Script
