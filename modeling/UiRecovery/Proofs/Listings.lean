import UiRecovery.Code.Program
import UiRecovery.Origin
import UiRecovery.Proofs.JsonReading

/-!
# Listings are read back

Programs and origins are written as JSON and read from it. Any value
without decimals is read back from its text (`Json.parse?_render`), so two
things are left to see of each type: that it is written without decimals
(`integral_toJson`), and that it reads what it wrote (`ofJson?_toJson`).
The proofs follow the types: a record is read field by field, lists and
missing values come back if their contents do, and an integer comes back
because it is within the bounds that the reader allows.
-/

namespace UiRecovery

namespace Json

/-! ## All numbers are integers -/

theorem integral_list {α : Type} {encode : α → Json} (h : ∀ a, (encode a).Integral)
    (as : List α) : (list encode as).Integral := by
  show AllIntegral (as.map encode)
  induction as with
  | nil => trivial
  | cons a as ih => exact ⟨h a, ih⟩

theorem integral_optional {α : Type} {encode : α → Json} (h : ∀ a, (encode a).Integral)
    (a : Option α) : (optional encode a).Integral := by
  cases a with
  | none => trivial
  | some a => exact h a

theorem integral_object {fields : List (String × Json)} (h : ∀ f ∈ fields, f.2.Integral) :
    (object fields).Integral := by
  show FieldsIntegral (fields.map fun f => (some f.1, f.2))
  induction fields with
  | nil => trivial
  | cons f fields ih =>
      rw [List.forall_mem_cons] at h
      exact ⟨h.1, ih h.2⟩

theorem integral_variant (name : String) {payload : Json} (h : payload.Integral) :
    (variant name payload).Integral := ⟨h, trivial⟩

theorem integral_text (s : String) : (text s).Integral := trivial

/-! ## Values and records -/

theorem int64?_int64 (i : Int64) : (int64 i).int64? = some i := by
  have hlow := Int64.le_toInt i
  have hhigh := Int64.toInt_lt i
  have hmin := Int64.toInt_minValue
  have hmax := Int64.toInt_maxValue
  have hwithin : intWithin? Int64.minValue.toInt Int64.maxValue.toInt (int64 i) = some i.toInt :=
    if_pos (by omega)
  rw [int64?, hwithin, Option.map_some, Int64.ofInt_toInt]

theorem list?_list {α : Type} {encode : α → Json} {decode : Json → Option α}
    (h : ∀ a, decode (encode a) = some a) (as : List α) :
    (list encode as).list? decode = some as := by
  show (as.map encode).mapM decode = some as
  induction as with
  | nil => rfl
  | cons a as ih =>
      rw [List.map_cons, List.mapM_cons, h, ih]
      rfl

theorem optional?_text (s : Option String) : (optional text s).optional? text? = some s := by
  cases s <;> rfl

end Json

/-! ## Programs -/

theorem Operand.integral_toJson (o : Operand) : o.toJson.Integral := by
  cases o with
  | localVar name => exact Json.integral_variant _ trivial
  | int i => exact Json.integral_variant _ trivial
  | str s => exact Json.integral_variant _ trivial
  | null => trivial

theorem Operand.ofJson?_toJson (o : Operand) : Operand.ofJson? o.toJson = some o := by
  cases o with
  | localVar name => rfl
  | int i =>
      show (Json.int64 i).int64?.map Operand.int = some (.int i)
      rw [Json.int64?_int64]
      rfl
  | str s => rfl
  | null => rfl

theorem Call.integral_toJson (c : Call) : c.toJson.Integral := by
  refine Json.integral_object ?_
  simp only [List.forall_mem_cons]
  exact ⟨trivial, Json.integral_optional Json.integral_text _,
    Json.integral_list Operand.integral_toJson _, fun _ hf => nomatch hf⟩

theorem Call.ofJson?_toJson (c : Call) : Call.ofJson? c.toJson = some c := by
  have hreceiver := Json.optional?_text c.receiver
  have hargs := Json.list?_list Operand.ofJson?_toJson c.args
  show (((Json.optional .text c.receiver).optional? Json.text?).bind fun receiver =>
    ((Json.list Operand.toJson c.args).list? Operand.ofJson?).bind fun args =>
      some (⟨c.signature, receiver, args⟩ : Call)) = some c
  rw [hreceiver, hargs]
  rfl

theorem Expr.integral_toJson (e : Expr) : e.toJson.Integral := by
  cases e with
  | call c => exact Json.integral_variant _ c.integral_toJson
  | new className => exact Json.integral_variant _ trivial
  | null => trivial
  | other => trivial

theorem Expr.ofJson?_toJson (e : Expr) : Expr.ofJson? e.toJson = some e := by
  cases e with
  | call c =>
      show (Call.ofJson? c.toJson).map Expr.call = some (.call c)
      rw [Call.ofJson?_toJson]
      rfl
  | new className => rfl
  | null => rfl
  | other => rfl

theorem Instruction.integral_toJson (i : Instruction) : i.toJson.Integral := by
  refine Json.integral_object ?_
  simp only [List.forall_mem_cons]
  exact ⟨Json.integral_optional Json.integral_text _, i.expr.integral_toJson,
    fun _ hf => nomatch hf⟩

theorem Instruction.ofJson?_toJson (i : Instruction) : Instruction.ofJson? i.toJson = some i := by
  have htarget := Json.optional?_text i.target
  have hexpr := Expr.ofJson?_toJson i.expr
  show (((Json.optional .text i.target).optional? Json.text?).bind fun target =>
    (Expr.ofJson? i.expr.toJson).bind fun expr => some (⟨target, expr⟩ : Instruction)) = some i
  rw [htarget, hexpr]
  rfl

theorem Method.integral_toJson (m : Method) : m.toJson.Integral := by
  refine Json.integral_object ?_
  simp only [List.forall_mem_cons]
  exact ⟨trivial, Json.integral_list Instruction.integral_toJson _, fun _ hf => nomatch hf⟩

theorem Method.ofJson?_toJson (m : Method) : Method.ofJson? m.toJson = some m := by
  have hinstructions := Json.list?_list Instruction.ofJson?_toJson m.instructions
  show (((Json.list Instruction.toJson m.instructions).list? Instruction.ofJson?).bind
    fun instructions => some (⟨m.signature, instructions⟩ : Method)) = some m
  rw [hinstructions]
  rfl

theorem Program.integral_toJson (p : Program) : p.toJson.Integral := by
  refine Json.integral_object ?_
  simp only [List.forall_mem_cons]
  exact ⟨Json.integral_list Method.integral_toJson _, fun _ hf => nomatch hf⟩

theorem Program.ofJson?_toJson (p : Program) : Program.ofJson? p.toJson = some p := by
  have hmethods := Json.list?_list Method.ofJson?_toJson p.methods
  show (((Json.list Method.toJson p.methods).list? Method.ofJson?).bind
    fun methods => some (⟨methods⟩ : Program)) = some p
  rw [hmethods]
  rfl

/-! ## Origins -/

theorem Origin.integral_toJson (o : Origin) : o.toJson.Integral := by
  cases o <;> exact Json.integral_object (by simp [Json.integral_text])

theorem Origin.ofJson?_toJson (o : Origin) : Origin.ofJson? o.toJson = some o := by
  cases o <;> rfl

/-- What is written is read back. The text of any program, whatever its
strings and integers are and whether or not its instructions assign a local
and its calls have a receiver, is read as that program, and the text of any
origin as that origin. -/
theorem listings_read_back :
    (∀ p : Program, Program.ofText? p.render = some p) ∧
      ∀ o : Origin, (Json.parse? o.toJson.render).bind Origin.ofJson? = some o := by
  refine ⟨fun p => ?_, fun o => ?_⟩
  · unfold Program.ofText? Program.render
    rw [Json.parse?_render p.integral_toJson]
    exact p.ofJson?_toJson
  · rw [Json.parse?_render o.integral_toJson]
    exact o.ofJson?_toJson

example :
    (Instruction.toJson ⟨none, .call ⟨"g()", some "v", [.int (-5), .str "\"\x01", .null]⟩⟩).render =
      "\x7b\"target\":null,\"expr\":\x7b\"Call\":\x7b\"subsignature\":\"g()\"," ++
        "\"receiver\":\"v\"," ++
        "\"args\":[\x7b\"Int\":-5\x7d,\x7b\"Str\":\"\\\"\\u0001\"\x7d,\"Null\"]\x7d\x7d\x7d" := by
  decide +kernel

end UiRecovery
