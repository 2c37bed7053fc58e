import Mathlib.Data.List.TakeWhile
import UiRecovery.Signature

/-!
# Signatures are read back

`Signature.format` writes the text of a signature from its parts, and
`callName` and `callParams` find the parts again. They look for delimiters
from both ends, so what has to be seen is that each part keeps off the
delimiters that it is found by:

- the **name** is what lies between the last space and the first opening
  parenthesis, so neither the return type nor the name may open one, and
  the name may not hold a space. The return type may;
- the **parameters** lie between the first opening parenthesis and the last
  closing one, which is the end of the text. So they may hold parentheses
  of their own (`parameterText_append`);
- a **single parameter** ends at a comma, and the blanks around it are not
  part of it (`trim_padded`). Only the text without parameters has an empty
  part, which does not count.

The positions of arguments are read off from the list of parameters, so it
matters that none is lost and none is joined to its neighbour.
-/

namespace UiRecovery

namespace Text

/-! ## Blanks around a text -/

theorem trim_append_left {before : List Char} (hbefore : ∀ c ∈ before, isBlank c = true)
    (cs : List Char) : trim (before ++ cs) = trim cs := by
  unfold trim
  rw [List.dropWhile_append_of_pos hbefore]

theorem trim_append_right (cs : List Char) {after : List Char}
    (hafter : ∀ c ∈ after, isBlank c = true) : trim (cs ++ after) = trim cs := by
  have hback : ∀ c ∈ after.reverse, isBlank c = true :=
    fun c hc => hafter c (List.mem_reverse.mp hc)
  unfold trim
  rw [List.dropWhile_append]
  split
  · rename_i hempty
    rw [List.isEmpty_iff.mp hempty, List.dropWhile_eq_nil_iff.mpr hafter]
  · rw [List.reverse_append, List.dropWhile_append_of_pos hback]

theorem trim_padded {before after : String} (hbefore : allBlank before = true)
    (hafter : allBlank after = true) (cs : List Char) :
    trim (before.toList ++ cs ++ after.toList) = trim cs := by
  rw [trim_append_right _ (List.all_eq_true.mp hafter),
    trim_append_left (List.all_eq_true.mp hbefore)]

/-- A comma is no blank. -/
theorem comma_not_mem_of_allBlank {s : String} (hs : allBlank s = true) : ',' ∉ s.toList := by
  intro hmem
  exact absurd (List.all_eq_true.mp hs _ hmem) (by decide)

end Text

namespace Signature

/-! ## The text of a signature -/

/-- A parameter as it is written: its type, and the blanks around it. -/
structure Parameter where
  type : String
  before : String := ""
  after : String := ""
  type_ne_empty : type ≠ ""
  comma_not_mem : ',' ∉ type.toList
  trim_type : Text.trim type.toList = type.toList
  blank_before : Text.allBlank before = true
  blank_after : Text.allBlank after = true

def Parameter.text (p : Parameter) : String := p.before ++ p.type ++ p.after

def format (ret name : String) (params : List Parameter) : String :=
  ret ++ " " ++ name ++ "(" ++ ",".intercalate (params.map Parameter.text) ++ ")"

namespace Parameter

theorem toList_text (p : Parameter) :
    p.text.toList = p.before.toList ++ p.type.toList ++ p.after.toList := by
  simp [text, String.toList_append]

theorem trim_text (p : Parameter) : Text.trim p.text.toList = p.type.toList := by
  rw [toList_text, Text.trim_padded p.blank_before p.blank_after, p.trim_type]

theorem comma_not_mem_text (p : Parameter) : ',' ∉ p.text.toList := by
  rw [toList_text]
  simp [p.comma_not_mem, Text.comma_not_mem_of_allBlank p.blank_before,
    Text.comma_not_mem_of_allBlank p.blank_after]

end Parameter

/-! ## The name -/

theorem ne_of_not_mem {d : Char} {cs : List Char} (hd : d ∉ cs) :
    ∀ c ∈ cs, decide (c ≠ d) = true := by
  intro c hc
  exact decide_eq_true fun heq => hd (heq ▸ hc)

/-- What comes before the parameters has no parenthesis, if neither part of
it has. -/
theorem open_not_mem_head {ret name : List Char} (hret : '(' ∉ ret) (hname : '(' ∉ name) :
    '(' ∉ ret ++ ' ' :: name := by
  simp [hret, hname]

theorem afterLast_append {d : Char} {cs : List Char} (hd : d ∉ cs) (before : List Char) :
    afterLast d (before ++ d :: cs) = cs := by
  have hback : ∀ c ∈ cs.reverse, decide (c ≠ d) = true :=
    ne_of_not_mem fun hmem => hd (List.mem_reverse.mp hmem)
  have hreverse : (before ++ d :: cs).reverse = cs.reverse ++ d :: before.reverse := by
    simp
  unfold afterLast
  rw [hreverse, List.takeWhile_append_of_pos hback]
  simp

/-- The name of a call is read off from its signature. -/
theorem callName_append {ret name : String} (params : String) (hret : '(' ∉ ret.toList)
    (hname : '(' ∉ name.toList) (hword : ' ' ∉ name.toList) :
    callName (ret ++ " " ++ name ++ "(" ++ params) = name := by
  have htext : (ret ++ " " ++ name ++ "(" ++ params).toList =
      (ret.toList ++ ' ' :: name.toList) ++ '(' :: params.toList := by
    simp [String.toList_append]
  have hhead := ne_of_not_mem (open_not_mem_head hret hname)
  unfold callName
  rw [htext, List.takeWhile_append_of_pos hhead, List.takeWhile_cons_of_neg (by simp),
    List.append_nil, afterLast_append hword, String.ofList_toList]

/-! ## The parameters -/

theorem beforeLast_concat (d : Char) (cs : List Char) : beforeLast d (cs ++ [d]) = cs := by
  simp [beforeLast]

/-- The last closing parenthesis is the end of the signature, whatever
parentheses come before it. -/
theorem parameterText_append {head : List Char} (hhead : '(' ∉ head) (inside : List Char) :
    parameterText (head ++ '(' :: (inside ++ [')'])) = inside := by
  have hdrop : (head ++ '(' :: (inside ++ [')'])).dropWhile (· ≠ '(') =
      '(' :: (inside ++ [')']) := by
    rw [List.dropWhile_append_of_pos (ne_of_not_mem hhead), List.dropWhile_cons_of_neg (by simp)]
  unfold parameterText
  dsimp only
  rw [hdrop, List.drop_succ_cons, List.drop_zero, if_pos (by simp), beforeLast_concat]

/-- Parts that are not blank are kept, without the blanks around them. -/
theorem filterMap_trim_parts (params : List Parameter) :
    ((params.map fun p => p.text.toList).map Text.trim).filterMap
      (fun p => if p.isEmpty then none else some (String.ofList p)) =
        params.map Parameter.type := by
  induction params with
  | nil => rfl
  | cons p params ih =>
      have hne : p.type.toList.isEmpty = false := by simp [p.type_ne_empty]
      rw [List.map_cons, List.map_cons, List.filterMap_cons, p.trim_text, hne,
        if_neg Bool.false_ne_true, ih, String.ofList_toList]
      rfl

theorem toList_format (ret name : String) (params : List Parameter) :
    (format ret name params).toList = (ret.toList ++ ' ' :: name.toList) ++
      '(' :: ([','].intercalate (params.map fun p => p.text.toList) ++ [')']) := by
  simp [format, String.toList_append, String.toList_intercalate, List.map_map, Function.comp_def]

/-- The parameters are read off from a signature, in their order. -/
theorem callParams_format {ret name : String} (hret : '(' ∉ ret.toList)
    (hname : '(' ∉ name.toList) (params : List Parameter) :
    callParams (format ret name params) = params.map Parameter.type := by
  unfold callParams
  rw [toList_format, parameterText_append (open_not_mem_head hret hname)]
  cases params with
  | nil => rfl
  | cons p params =>
      have hcommas : ∀ cs ∈ (p :: params).map fun p => p.text.toList, ',' ∉ cs := by
        intro cs hcs
        obtain ⟨q, -, rfl⟩ := List.mem_map.mp hcs
        exact q.comma_not_mem_text
      rw [List.splitOn_intercalate ',' hcommas (by simp)]
      exact filterMap_trim_parts (p :: params)

/-- A signature is read back from its text: its name, and its parameters in
their order, none lost and none joined to another. The return type may hold
spaces, parameters may hold parentheses, and there may be no parameters. -/
theorem format_read_back {ret name : String} (hret : '(' ∉ ret.toList)
    (hname : '(' ∉ name.toList) (hword : ' ' ∉ name.toList) (params : List Parameter) :
    callName (format ret name params) = name ∧
      callParams (format ret name params) = params.map Parameter.type := by
  refine ⟨?_, callParams_format hret hname params⟩
  have htext : format ret name params =
      ret ++ " " ++ name ++ "(" ++ (",".intercalate (params.map Parameter.text) ++ ")") := by
    simp [format, String.append_assoc]
  rw [htext]
  exact callName_append _ hret hname hword

/-- A function is passed, between blanks, and its own parameters are closed
before the list of parameters is. -/
theorem format_read_back_callback :
    let callback : Parameter :=
      ⟨"void(int)", " ", "　", by decide, by decide, by decide, by decide, by decide⟩
    let count : Parameter := ⟨"int", "", " ", by decide, by decide, by decide, by decide, by decide⟩
    let text := "unsigned long) each( void(int)　,int )"
    format "unsigned long)" "each" [callback, count] = text ∧ callName text = "each" ∧
      callParams text = ["void(int)", "int"] := by
  intro callback count text
  have htext : format "unsigned long)" "each" [callback, count] = text := by decide +kernel
  have hread := @format_read_back "unsigned long)" "each" (by decide) (by decide) (by decide)
    [callback, count]
  rw [htext] at hread
  exact ⟨htext, hread⟩

end Signature

end UiRecovery
