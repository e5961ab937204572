import TypeProfile.Proofs.Layout
import TypeProfile.Proofs.Toml.Sections
import TypeProfile.Settings

/-!
# What a configuration overrides

A configuration overrides the fields that it names and leaves all others as they are. It is read
exactly if the layout that results is usable. If not, the first field in the order of declaration
which is at fault is reported, whatever the order in the text.
-/

namespace TypeProfile

/-- The layout with other texts in some of its fields. -/
def Layout.override (layout : Layout) (fields : List Field) (text : Field → String) : Layout :=
  ofFields fun field => if field ∈ fields then text field else layout.get field

namespace Settings

open Toml

variable {output : Option OutputFormat} {fields : List Layout.Field}
  {text : Layout.Field → String} {document : String}

/-- What a configuration says before any heading: the format, if it names one. -/
def topTexts (output : Option OutputFormat) : List (String × String) :=
  output.toList.map fun format => ("output", format.name)

/-- The fields that a configuration names, with their texts. -/
def fieldTexts (fields : List Layout.Field) (text : Layout.Field → String) :
    List (String × String) :=
  fields.map fun field => (field.name, text field)

/-- The text is one of the ways to write a configuration with this format, if there is one, and
with these fields in this order. -/
def WrittenAs (output : Option OutputFormat) (fields : List Layout.Field)
    (text : Layout.Field → String) (document : String) : Prop :=
  Writes (sectioned (topTexts output) "render" (fieldTexts fields text)) document.toList

theorem get?_fieldTexts (fields : List Layout.Field) (text : Layout.Field → String)
    (field : Layout.Field) :
    (Table.ofTexts (fieldTexts fields text)).get? field.name =
      if field ∈ fields then some (.string (text field)) else none := by
  have htable : Table.ofTexts (fieldTexts fields text) =
      fields.map fun field => (field.name, .string (text field)) := List.map_map
  rw [htable, Table.get?]
  clear htable
  induction fields with
  | nil => rfl
  | cons first fields ih =>
      rw [List.map_cons, List.lookup_cons]
      by_cases hsame : field = first
      · subst hsame
        simp
      · have hname : (field.name == first.name) = false :=
          beq_eq_false_iff_ne.mpr fun hname => hsame (Layout.Field.vocabulary.name_injective hname)
        simp only [hname, ih, List.mem_cons, hsame, false_or]

theorem fieldText_given (field : Layout.Field) :
    fieldText field (if field ∈ fields then some (.string (text field)) else none) =
      .ok (((default : Layout).override fields text).get field) := by
  rw [Layout.override, Layout.get_ofFields]
  split <;> rfl

theorem layoutOf_fieldTexts (fields : List Layout.Field) (text : Layout.Field → String) :
    layoutOf (fun field => (Table.ofTexts (fieldTexts fields text)).get? field.name) =
      .ok ((default : Layout).override fields text) := by
  simp only [layoutOf, get?_fieldTexts, fieldText_given]
  rfl

theorem ofTable_sectioned (output : Option OutputFormat) (fields : List Layout.Field)
    (text : Layout.Field → String) :
    ofTable (Table.ofTexts (topTexts output) ++
      [("render", .table .headed (Table.ofTexts (fieldTexts fields text)))]) =
        .ok ⟨output, (default : Layout).override fields text⟩ := by
  have hlayout : layoutOfValue (.table .headed (Table.ofTexts (fieldTexts fields text))) =
      .ok ((default : Layout).override fields text) := layoutOf_fieldTexts fields text
  cases output with
  | none =>
      change (layoutOfValue _ >>= fun layout => pure _) = _
      rw [hlayout]
      rfl
  | some format =>
      have hformat : Settings.format (.string format.name) = .ok format := by
        cases format <;> rfl
      change ((some <$> Settings.format (.string format.name)) >>= fun output =>
        layoutOfValue _ >>= fun layout => pure _) = _
      rw [hformat, hlayout]
      rfl

theorem nodup_topTexts (output : Option OutputFormat) :
    ("render" :: (topTexts output).map Prod.fst).Nodup := by
  have hsome : ["render", "output"].Nodup := by decide
  cases output with
  | none => exact List.nodup_singleton "render"
  | some format => exact hsome

theorem nodup_fieldTexts (hdistinct : fields.Nodup) (text : Layout.Field → String) :
    ((fieldTexts fields text).map Prod.fst).Nodup := by
  have hnames : (fieldTexts fields text).map Prod.fst = fields.map Layout.Field.name := by
    rw [fieldTexts, List.map_map]
    rfl
  rw [hnames]
  exact hdistinct.map fun _ _ hname => Layout.Field.vocabulary.name_injective hname

/-- However a configuration is written, it is read as what it says. -/
theorem read_of_writtenAs (hdistinct : fields.Nodup)
    (hwritten : WrittenAs output fields text document) :
    (tableOf document >>= ofTable) = .ok ⟨output, (default : Layout).override fields text⟩ := by
  rw [tableOf_of_writes hwritten (nodup_topTexts output) (nodup_fieldTexts hdistinct text)]
  exact ofTable_sectioned output fields text

/-- A configuration that names these fields is read exactly if the usual layout with their texts is
usable, and then as this layout. Otherwise the first field at fault is reported, with its text and
what is wrong with it. -/
theorem parse_exact (hdistinct : fields.Nodup)
    (hwritten : WrittenAs output fields text document) :
    ((∃ settings, parse document = .ok settings) ↔
      ((default : Layout).override fields text).fault? = none) ∧
    (∀ settings, parse document = .ok settings →
      settings = ⟨output, (default : Layout).override fields text⟩) ∧
    ∀ error, parse document = .error error →
      ∃ field value, value = ((default : Layout).override fields text).get field ∧
        field.accepts value = false ∧
        (∀ other ∈ field.earlier,
          other.accepts (((default : Layout).override fields text).get other) = true) ∧
        error = .layout ⟨field, value⟩ ∧
        error.message = "invalid render config: " ++ field.name ++ " = " ++ Text.quote value ++
          " (" ++ field.complaint ++ ")" := by
  have hread := read_of_writtenAs hdistinct hwritten
  cases hfault : ((default : Layout).override fields text).fault? with
  | none =>
      have hparse : parse document = .ok ⟨output, (default : Layout).override fields text⟩ := by
        simp only [parse, hread, hfault]
      rw [hparse]
      refine ⟨⟨fun _ => rfl, fun _ => ⟨_, rfl⟩⟩, ?_, ?_⟩
      · rintro settings ⟨⟩
        rfl
      · rintro error ⟨⟩
  | some fault =>
      have hparse : parse document = .error (.layout fault) := by
        simp only [parse, hread, hfault]
      obtain ⟨hvalue, hfield, hearlier⟩ := Layout.fault?_eq_some_iff.mp hfault
      rw [hparse]
      refine ⟨⟨?_, ?_⟩, ?_, ?_⟩
      · rintro ⟨settings, ⟨⟩⟩
      · rintro ⟨⟩
      · rintro settings ⟨⟩
      · rintro error ⟨⟩
        exact ⟨fault.field, fault.value, hvalue, hfield, hearlier, rfl, rfl⟩

theorem isBareKey_name (field : Layout.Field) : isBareKey field.name = true := by
  cases field <;> rfl

/-- Every choice of fields can be written. -/
theorem writtenAs_plainDocument (output : Option OutputFormat) (fields : List Layout.Field)
    (text : Layout.Field → String) :
    WrittenAs output fields text
      (String.ofList (plainDocument (topTexts output) "render" (fieldTexts fields text))) := by
  rw [WrittenAs, String.toList_ofList]
  have houtput : isBareKey "output" = true := rfl
  apply writes_plainDocument rfl
  · cases output with
    | none => exact nofun
    | some format => exact List.forall_mem_singleton.mpr houtput
  · intro entry hentry
    obtain ⟨field, -, rfl⟩ := List.mem_map.mp hentry
    exact isBareKey_name field

/-- Two fields at fault, of which the text has the later one first, and a field that is as it should
be. -/
theorem parse_of_two_faults :
    (∃ error, parse "output = \"json\"\n[render]\nindent = \"--\"\nstruct_name = \"\"\n" =
        .error error ∧
      error.message = "invalid render config: struct_name = \"\" (not an identifier)") ∧
    parse "[render]\nstruct_name = \"S\"\n" = .ok ⟨none, { structName := "S" }⟩ := by
  let faulty : Layout.Field → String := fun field => if field = .indent then "--" else ""
  have hfaulty := writtenAs_plainDocument (some .json) [.indent, .structName] faulty
  have hnamed := writtenAs_plainDocument none [.structName] fun _ => "S"
  have hfirst : String.ofList (plainDocument (topTexts (some .json)) "render"
      (fieldTexts [.indent, .structName] faulty)) =
        "output = \"json\"\n[render]\nindent = \"--\"\nstruct_name = \"\"\n" := by decide +kernel
  have hsecond : String.ofList (plainDocument (topTexts none) "render"
      (fieldTexts [.structName] fun _ => "S")) = "[render]\nstruct_name = \"S\"\n" := by
    decide +kernel
  rw [hfirst] at hfaulty
  rw [hsecond] at hnamed
  obtain ⟨hread, -, hreport⟩ := parse_exact (by decide) hfaulty
  obtain ⟨hread', hsettings, -⟩ := parse_exact (by decide) hnamed
  constructor
  · cases hparse : parse "output = \"json\"\n[render]\nindent = \"--\"\nstruct_name = \"\"\n" with
    | ok settings => exact absurd (hread.mp ⟨settings, hparse⟩) (by decide)
    | error error =>
        obtain ⟨field, value, rfl, hfield, hearlier, rfl, hmessage⟩ := hreport error hparse
        refine ⟨_, rfl, ?_⟩
        cases field with
        | structName => decide
        | basePrefix => exact absurd hfield (by decide)
        | indent => exact absurd (hearlier .structName (by decide)) (by decide)
  · obtain ⟨settings, hparse⟩ := hread'.mpr (by decide)
    rw [hparse, hsettings settings hparse]
    rfl

end Settings

end TypeProfile
