import GitDelivery.Proofs.Json.Difference
import GitDelivery.Proofs.Resource.Encoding
import GitDelivery.Resource.HookJob

set_option autoImplicit false

/-! Hook jobs read and written again. Of the fields that are known a null one is left out, which makes no
difference to a reader; all others are kept as they are. -/

namespace GitDelivery

/-! ### Records that keep other fields -/

namespace Json

def unlessNull : Option Json → Option Json
  | some .null => none
  | field => field

/-- What is written has the fields of what was read, but for the known ones that were null. -/
def Keeps (known : List String) (read written : Json) : Prop :=
  ∀ field, written.get? field = if field ∈ known then unlessNull (read.get? field) else read.get? field

private theorem unlessNull_some {value : Json} (present : value ≠ .null) :
    unlessNull (some value) = some value := by
  unfold unlessNull
  split
  · next null => exact absurd (Option.some.inj null) present
  · rfl

variable {pairs : List (String × Option Json)} {fields : Table Json} {name : String}

private theorem ofExtended_ne_null (pairs : List (String × Option Json)) (others : Table Json) :
    ofExtended pairs others ≠ .null := by
  intro same
  cases same

/-- Written back beside its known fields, the rest of an object is as it was. -/
theorem get?_ofExtended (distinct : (Table.keys pairs).Nodup) (ascends : Table.Ascending fields) :
    (ofExtended pairs (fields.without (Table.keys pairs))).get? name =
      if name ∈ Table.keys pairs then (Table.get? name pairs).join else Table.get? name fields := by
  have known : Table.get? name (Table.ofList (pairs.filterMap fun field => field.2.map (field.1, ·))) =
      (Table.get? name pairs).join := get?_ofPresent distinct name
  change Table.get? name (Table.ofList (pairs.filterMap (fun field => field.2.map (field.1, ·)) ++ _)) = _
  rw [Table.get?_ofList_append, ascends.without.get?_ofList, Table.get?_without, known]
  by_cases member : name ∈ Table.keys pairs
  · rw [if_pos member, if_pos member, Option.none_or]
  · rw [if_neg member, if_neg member, Table.get?_eq_none member, Option.join_none, Option.or_none]

private theorem keeps_ofExtended (distinct : (Table.keys pairs).Nodup)
    (ascends : Table.Ascending fields)
    (same : ∀ pair ∈ pairs, pair.2 = unlessNull (Table.get? pair.1 fields)) :
    Keeps (Table.keys pairs) (.object fields)
      (ofExtended pairs (fields.without (Table.keys pairs))) := by
  intro field
  rw [get?_ofExtended distinct ascends]
  by_cases member : field ∈ Table.keys pairs
  · obtain ⟨⟨_, value⟩, listed, rfl⟩ := List.mem_map.mp member
    rw [if_pos member, if_pos member, Table.get?_of_mem distinct listed]
    exact same _ listed
  · rw [if_neg member, if_neg member]
    rfl

/-- The object that is written, its known fields, and its other ones, which are those that were read. -/
theorem ofExtended_fields (value : Json)
    (written : value = ofExtended pairs (fields.without (Table.keys pairs)))
    (distinct : (Table.keys pairs).Nodup) (ascends : Table.Ascending fields) :
    ∃ kept, value = .object kept ∧ (∀ pair ∈ pairs, Table.get? pair.1 kept = pair.2) ∧
      Table.without (Table.keys pairs) kept = fields.without (Table.keys pairs) := by
  refine ⟨_, written, fun pair member => ?_, ?_⟩
  · have known : pair.1 ∈ Table.keys pairs := List.mem_map.mpr ⟨pair, member, rfl⟩
    change (ofExtended _ _).get? pair.1 = pair.2
    rw [get?_ofExtended distinct ascends, if_pos known, Table.get?_of_mem distinct member]
    rfl
  · refine (Table.ascending_ofList _).without.ext ascends.without fun name => ?_
    rw [Table.get?_without, Table.get?_without]
    by_cases member : name ∈ Table.keys pairs
    · rw [if_pos member, if_pos member]
    · rw [if_neg member, if_neg member]
      exact (get?_ofExtended distinct ascends).trans (if_neg member)

theorem ofExtended_kept (value : Json)
    (written : value = ofExtended pairs (fields.without (Table.keys pairs)))
    (distinct : (Table.keys pairs).Nodup) (ascends : Table.Ascending fields)
    (same : ∀ pair ∈ pairs, pair.2 = unlessNull (Table.get? pair.1 fields)) :
    ∃ kept, value = .object kept ∧ Keeps (Table.keys pairs) (.object fields) (.object kept) ∧
      Table.without (Table.keys pairs) kept = fields.without (Table.keys pairs) := by
  obtain ⟨kept, made, -, others⟩ := ofExtended_fields value written distinct ascends
  have keeps := keeps_ofExtended distinct ascends same
  rw [← written, made] at keeps
  exact ⟨kept, made, keeps, others⟩

end Json

namespace Decoder

variable {α : Type} {decode : Decoder α} {encode : α → Json} {name : String} {fields kept : Table Json}
  {read : Option α}

theorem exists_fields {value : Json} {result : α} {next : Table Json → Except DecodeError α}
    (decoded : Decoder.fields value >>= next = .ok result) : ∃ fields, value = .object fields := by
  obtain ⟨fields, shaped, _⟩ := except_bind_ok_iff.mp decoded
  exact ⟨fields, fields_ok_iff.mp shaped⟩

theorem optional_cases (decoded : optional decode name fields = .ok read) :
    (Json.unlessNull (Table.get? name fields) = none ∧ read = none) ∨
      ∃ value known, Table.get? name fields = some value ∧ Json.unlessNull (some value) = some value ∧
        decode value = .ok known ∧ read = some known := by
  unfold optional at decoded
  split at decoded
  · next absent =>
      cases decoded
      exact .inl ⟨by rw [absent]; rfl, rfl⟩
  · next null =>
      cases decoded
      exact .inl ⟨by rw [null]; rfl, rfl⟩
  · next value other found =>
      have present : Json.unlessNull (some value) = some value :=
        Json.unlessNull_some (by rintro rfl; exact other rfl)
      cases known : decode value with
      | error failure =>
          rw [known] at decoded
          cases decoded
      | ok held =>
          rw [known] at decoded
          cases decoded
          exact .inr ⟨value, held, found, present, known, rfl⟩

theorem map_of_optional (exact : ∀ value known, decode value = .ok known → encode known = value)
    (decoded : optional decode name fields = .ok read) :
    read.map encode = Json.unlessNull (Table.get? name fields) := by
  rcases optional_cases decoded with ⟨absent, rfl⟩ | ⟨value, known, found, present, understood, rfl⟩
  · rw [absent]
    rfl
  · rw [found, present]
    exact congrArg some (exact value known understood)

/-- It does not matter to a reader whether a field is null or left out. -/
theorem optional_of_keeps {names : List String} (keeps : Json.Keeps names (.object fields) (.object kept))
    (member : name ∈ names) (decode : Decoder α) :
    optional decode name kept = optional decode name fields := by
  have same : Table.get? name kept = Json.unlessNull (Table.get? name fields) :=
    (keeps name).trans (if_pos member)
  unfold optional
  rw [same]
  cases Table.get? name fields with
  | none => rfl
  | some value => cases value <;> rfl

end Decoder

/-! ### Specifications, results and statuses -/

private theorem text_exact (value : Json) (known : String) (read : Decoder.text value = .ok known) :
    .text known = value := by
  cases value <;> cases read
  rfl

namespace HookJobSpec

variable {fields : Table Json} {spec : HookJobSpec}

def known (spec : HookJobSpec) : List (String × Option Json) :=
  [("tower_auth_secret", spec.secret.map .text), ("job_template_name", spec.template.map .text),
    ("extra_vars", spec.extraVars)]

theorem decode_ok_iff : decode (.object fields) = .ok spec ↔
    Decoder.optional .text "tower_auth_secret" fields = .ok spec.secret ∧
    Decoder.optional .text "job_template_name" fields = .ok spec.template ∧
    Decoder.optional .json "extra_vars" fields = .ok spec.extraVars ∧
    fields.without (Table.keys spec.known) = spec.others := by
  constructor
  · intro decoded
    obtain ⟨_, shaped, decoded⟩ := except_bind_ok_iff.mp decoded
    cases shaped
    obtain ⟨_, secret, decoded⟩ := except_bind_ok_iff.mp decoded
    obtain ⟨_, template, decoded⟩ := except_bind_ok_iff.mp decoded
    obtain ⟨_, extraVars, decoded⟩ := except_bind_ok_iff.mp decoded
    cases decoded
    exact ⟨secret, template, extraVars, rfl⟩
  · rintro ⟨secret, template, extraVars, others⟩
    simp only [decode, Decoder.fields, secret, template, extraVars, bind, Except.bind, pure, Except.pure]
    exact congrArg (fun others => Except.ok { spec with others := others }) others

theorem kept (ordered : Json.InOrder (.object fields)) (decoded : decode (.object fields) = .ok spec) :
    ∃ kept, spec.toJson = .object kept ∧
      Json.Keeps (Table.keys spec.known) (.object fields) (.object kept) ∧
      Table.without (Table.keys spec.known) kept = spec.others := by
  obtain ⟨secret, template, extraVars, others⟩ := decode_ok_iff.mp decoded
  have written : spec.toJson = .ofExtended spec.known (fields.without (Table.keys spec.known)) := by
    rw [others]
    rfl
  have vars : spec.extraVars.map id = _ :=
    Decoder.map_of_optional (fun _ _ read => (Except.ok.inj read).symm) extraVars
  rw [Option.map_id] at vars
  rw [← others]
  refine Json.ofExtended_kept spec.toJson written (by simp [known, Table.keys]) ordered.ascends ?_
  simp only [known, List.forall_mem_cons]
  exact ⟨Decoder.map_of_optional text_exact secret, Decoder.map_of_optional text_exact template, vars,
    List.forall_mem_nil _⟩

theorem restored (ordered : Json.InOrder (.object fields)) (decoded : decode (.object fields) = .ok spec) :
    decode spec.toJson = .ok spec := by
  obtain ⟨kept, written, keeps, others⟩ := kept ordered decoded
  obtain ⟨secret, template, extraVars, -⟩ := decode_ok_iff.mp decoded
  rw [← Decoder.optional_of_keeps keeps (by simp [known, Table.keys])] at secret template extraVars
  rw [written]
  exact decode_ok_iff.mpr ⟨secret, template, extraVars, others⟩

end HookJobSpec

namespace HookJobResult

variable {fields : Table Json} {result : HookJobResult}

def known (result : HookJobResult) : List (String × Option Json) :=
  [("status", result.status.map .text)]

theorem decode_ok_iff : decode (.object fields) = .ok result ↔
    Decoder.optional .text "status" fields = .ok result.status ∧
    fields.without (Table.keys result.known) = result.others := by
  constructor
  · intro decoded
    obtain ⟨_, shaped, decoded⟩ := except_bind_ok_iff.mp decoded
    cases shaped
    obtain ⟨_, status, decoded⟩ := except_bind_ok_iff.mp decoded
    cases decoded
    exact ⟨status, rfl⟩
  · rintro ⟨status, others⟩
    simp only [decode, Decoder.fields, status, bind, Except.bind, pure, Except.pure]
    exact congrArg (fun others => Except.ok { result with others := others }) others

theorem kept (ordered : Json.InOrder (.object fields)) (decoded : decode (.object fields) = .ok result) :
    ∃ kept, result.toJson = .object kept ∧
      Json.Keeps (Table.keys result.known) (.object fields) (.object kept) ∧
      Table.without (Table.keys result.known) kept = result.others := by
  obtain ⟨status, others⟩ := decode_ok_iff.mp decoded
  have written : result.toJson = .ofExtended result.known (fields.without (Table.keys result.known)) := by
    rw [others]
    rfl
  rw [← others]
  refine Json.ofExtended_kept result.toJson written (by simp [known, Table.keys]) ordered.ascends ?_
  rw [known, List.forall_mem_singleton]
  exact Decoder.map_of_optional text_exact status

private theorem restored (ordered : Json.InOrder (.object fields))
    (decoded : decode (.object fields) = .ok result) : decode result.toJson = .ok result := by
  obtain ⟨kept, written, keeps, others⟩ := kept ordered decoded
  obtain ⟨status, -⟩ := decode_ok_iff.mp decoded
  rw [← Decoder.optional_of_keeps keeps (by simp [known, Table.keys])] at status
  rw [written]
  exact decode_ok_iff.mpr ⟨status, others⟩

end HookJobResult

namespace HookJobStatus

variable {fields : Table Json} {status : HookJobStatus}

/-- What is written of a status has the fields of what was read. The result is kept field by field, too,
and left out if it was null. -/
structure Kept (read written : Json) : Prop where
  others : ∀ field, field ≠ "ansibleJobResult" → written.get? field = read.get? field
  result : Option.Rel (Json.Keeps ["status"]) (Json.unlessNull (read.get? "ansibleJobResult"))
    (written.get? "ansibleJobResult")

def known (status : HookJobStatus) : List (String × Option Json) :=
  [("ansibleJobResult", status.result.map HookJobResult.toJson)]

theorem decode_ok_iff : decode (.object fields) = .ok status ↔
    Decoder.optional HookJobResult.decode "ansibleJobResult" fields = .ok status.result ∧
    fields.without (Table.keys status.known) = status.others := by
  constructor
  · intro decoded
    obtain ⟨_, shaped, decoded⟩ := except_bind_ok_iff.mp decoded
    cases shaped
    obtain ⟨_, result, decoded⟩ := except_bind_ok_iff.mp decoded
    cases decoded
    exact ⟨result, rfl⟩
  · rintro ⟨result, others⟩
    simp only [decode, Decoder.fields, result, bind, Except.bind, pure, Except.pure]
    exact congrArg (fun others => Except.ok { status with others := others }) others

theorem written_eq (others : fields.without (Table.keys status.known) = status.others) :
    status.toJson = .ofExtended status.known (fields.without (Table.keys status.known)) := by
  rw [others]
  rfl

/-- Either there is no result, before and after, or there is one, which is kept and can be read again. -/
theorem result_cases (ordered : Json.InOrder (.object fields)) {read : Option HookJobResult}
    (decoded : Decoder.optional HookJobResult.decode "ansibleJobResult" fields = .ok read) :
    (Json.unlessNull (Table.get? "ansibleJobResult" fields) = none ∧ read = none) ∨
      ∃ inner result, Json.unlessNull (Table.get? "ansibleJobResult" fields) = some inner ∧
        read = some result ∧ inner.Keeps ["status"] result.toJson ∧
        HookJobResult.decode result.toJson = .ok result := by
  rcases Decoder.optional_cases decoded with none | ⟨inner, result, found, present, understood, some⟩
  · exact .inl none
  · obtain ⟨fields, rfl⟩ := Decoder.exists_fields understood
    have innerOrdered := ordered.field found
    obtain ⟨kept, written, keeps, -⟩ := HookJobResult.kept innerOrdered understood
    rw [← written] at keeps
    exact .inr ⟨_, result, found ▸ present, some, keeps,
      HookJobResult.restored innerOrdered understood⟩

theorem kept (ordered : Json.InOrder (.object fields)) (decoded : decode (.object fields) = .ok status) :
    Kept (.object fields) status.toJson := by
  obtain ⟨result, others⟩ := decode_ok_iff.mp decoded
  have distinct : (Table.keys status.known).Nodup := by simp [known, Table.keys]
  rw [written_eq others]
  refine ⟨fun field other => ?_, ?_⟩
  · rw [Json.get?_ofExtended distinct ordered.ascends, if_neg (by simpa [known, Table.keys] using other)]
    rfl
  · rw [Json.get?_ofExtended distinct ordered.ascends, if_pos (by simp [known, Table.keys])]
    change Option.Rel _ (Json.unlessNull (Table.get? _ fields)) (status.result.map HookJobResult.toJson)
    rcases result_cases ordered result with ⟨absent, none⟩ | ⟨inner, result, present, some, keeps, -⟩
    · rw [absent, none]
      exact .none
    · rw [present, some]
      exact .some keeps

theorem restored (ordered : Json.InOrder (.object fields))
    (decoded : decode (.object fields) = .ok status) : decode status.toJson = .ok status := by
  obtain ⟨result, others⟩ := decode_ok_iff.mp decoded
  obtain ⟨kept, written, found, same⟩ := Json.ofExtended_fields status.toJson (written_eq others)
    (by simp [known, Table.keys]) ordered.ascends
  rw [known, List.forall_mem_singleton] at found
  rw [written]
  refine decode_ok_iff.mpr ⟨Decoder.optional_of_found (fun known member => ?_) found, same.trans others⟩
  rcases result_cases ordered result with ⟨_, none⟩ | ⟨_, result, _, some, _, again⟩
  · rw [none] at member
    cases member
  · rw [some] at member
    cases member
    exact ⟨again, Json.ofExtended_ne_null _ _⟩

end HookJobStatus

end GitDelivery
