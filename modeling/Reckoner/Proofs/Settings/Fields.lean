import Mathlib.Data.List.Perm.Basic
import Reckoner.Proofs.Disk.Saving
import Reckoner.Proofs.Settings.Format

/-!
# The fields of the settings file

The fields of a record are found by their names, in any order and among any others
(`Json.Value.record?_of_perm`). So the settings file may lack any of its fields, have them in any
order, and hold fields that are not known, whatever their values: it is read as the settings with
the usual value for each field that it lacks (`ofFile?_of_isDocument`).
-/

namespace Reckoner

namespace Json.Value

/-- Every field that is called by a name. -/
theorem filter_eq_of_nodup {known : List (Text × Value)} (distinct : (known.map Prod.fst).Nodup)
    (name : Text) :
    known.filter (fun field => field.1 = name) = (known.lookup name).toList.map (name, ·) := by
  induction known with
  | nil => rfl
  | cons field rest ih =>
      obtain ⟨first, value⟩ := field
      obtain ⟨alone, later⟩ := List.nodup_cons.mp distinct
      by_cases same : first = name
      · subst same
        have absent : rest.filter (fun field => field.1 = first) = [] := by
          rw [List.filter_eq_nil_iff]
          intro other member again
          exact alone (List.mem_map.mpr ⟨other, member, of_decide_eq_true again⟩)
        rw [List.filter_cons_of_pos (by simp), absent, List.lookup_cons_self]
        rfl
      · have other : (name == first) = false := by simpa using fun hit => same hit.symm
        rw [List.filter_cons_of_neg (by simpa using same), ih later, List.lookup_cons, other]

/-- The name and the value of a field. -/
def keyed (field : Quotation × Value) : Text × Value := ((Quotation.text? field.1).getD [], field.2)

theorem mapM_keyed {fields : List (Quotation × Value)}
    (named : ∀ field ∈ fields, (Quotation.text? field.1).isSome) :
    fields.mapM (fun field => (Quotation.text? field.1).map (·, field.2)) =
      some (fields.map keyed) := by
  induction fields with
  | nil => rfl
  | cons field rest ih =>
      obtain ⟨name, spelt⟩ := Option.isSome_iff_exists.mp (named field List.mem_cons_self)
      have first : keyed field = (name, field.2) := by rw [keyed, spelt, Option.getD_some]
      rw [List.mapM_cons, ih fun other member => named other (List.mem_cons_of_mem _ member), spelt,
        List.map_cons, first]
      rfl

theorem mapM_lookup {names : List Text} {find : Text → Option (Option Value)}
    {known : List (Text × Value)} (found : ∀ name ∈ names, find name = some (known.lookup name)) :
    names.mapM find = some (names.map fun name => known.lookup name) := by
  induction names with
  | nil => rfl
  | cons name rest ih =>
      rw [List.mapM_cons, found name List.mem_cons_self,
        ih fun other member => found other (List.mem_cons_of_mem _ member)]
      rfl

/-- **The fields of a record are found by their names**, in any order and among any others. -/
theorem record?_of_perm {names : List Text} {known : List (Text × Value)}
    {added fields : List (Quotation × Value)} (distinct : (known.map Prod.fst).Nodup)
    (foreign : ∀ field ∈ added, ∃ name, Quotation.text? field.1 = some name ∧ name ∉ names)
    (order : fields.Perm
      (known.map (fun field => (Quotation.ofText field.1, field.2)) ++ added)) :
    (Value.object fields).record? names = some (names.map fun name => known.lookup name) := by
  have own : (known.map (fun field => (Quotation.ofText field.1, field.2))).map keyed = known := by
    rw [List.map_map]
    refine List.map_id'' (fun field => ?_) known
    show ((Quotation.text? (Quotation.ofText field.1)).getD [], field.2) = field
    rw [Quotation.text?_ofText, Option.getD_some]
  have named : ∀ field ∈ fields, (Quotation.text? field.1).isSome := by
    intro field member
    rcases List.mem_append.mp (order.subset member) with kept | other
    · obtain ⟨entry, -, rfl⟩ := List.mem_map.mp kept
      rw [Quotation.text?_ofText]
      rfl
    · obtain ⟨name, spelt, -⟩ := foreign field other
      rw [spelt]
      rfl
  -- Of all fields, those of a name are the known one of that name, if there is one.
  have called : ∀ name ∈ names, (fields.map keyed).filter (fun field => field.1 = name) =
      (known.lookup name).toList.map (name, ·) := by
    intro name member
    have strange : (added.map keyed).filter (fun field => field.1 = name) = [] := by
      rw [List.filter_eq_nil_iff]
      intro entry among same
      obtain ⟨field, inside, rfl⟩ := List.mem_map.mp among
      obtain ⟨other, spelt, unknown⟩ := foreign field inside
      have hit : other = name := by simpa [keyed, spelt] using same
      exact unknown (hit ▸ member)
    have moved := (order.map keyed).filter (fun field => decide (field.1 = name))
    rw [List.map_append, own, List.filter_append, strange, List.append_nil,
      filter_eq_of_nodup distinct] at moved
    cases found : known.lookup name with
    | none =>
        rw [found] at moved
        exact moved.eq_nil
    | some value =>
        rw [found] at moved
        exact List.perm_singleton.mp moved
  rw [record?, mapM_keyed named, Option.bind_eq_bind, Option.bind_some]
  refine mapM_lookup fun name member => ?_
  rw [called name member]
  cases known.lookup name <;> rfl

end Json.Value

namespace Settings

/-- The fields of the file and their names. -/
def named (settings : Settings) : List (Text × Json.Value) :=
  [("theme".toList, .ofText settings.theme.name),
   ("max_history".toList, .number (.ofNat settings.maxHistory)),
   ("persist_history".toList, .bool settings.persistHistory)]

/-- The fields of the file that have certain names, as they stand there. -/
def keptFields (keeps : Text → Bool) (settings : Settings) : List (Json.Quotation × Json.Value) :=
  (settings.named.filter (fun field => keeps field.1)).map
    (fun field => (Json.Quotation.ofText field.1, field.2))

/-- Settings in which every field that is left out has its usual value. -/
def keeping (keeps : Text → Bool) (settings : Settings) : Settings where
  theme := if keeps "theme".toList then settings.theme else standard.theme
  maxHistory := if keeps "max_history".toList then settings.maxHistory else standard.maxHistory
  persistHistory :=
    if keeps "persist_history".toList then settings.persistHistory else standard.persistHistory

/-- Every field is among those that are written. -/
theorem toJson_eq (settings : Settings) :
    settings.toJson = .object (settings.keptFields (fun _ => true)) := rfl

/-- A field is found by its name, if it is kept. -/
theorem lookup_named (keeps : Text → Bool) (settings : Settings) :
    (fieldNames.map fun name =>
        (settings.named.filter (fun field => keeps field.1)).lookup name) =
      [if keeps "theme".toList then some (Json.Value.ofText settings.theme.name) else none,
       if keeps "max_history".toList then some (.number (.ofNat settings.maxHistory)) else none,
       if keeps "persist_history".toList then some (.bool settings.persistHistory) else none] := by
  rw [named, List.filter_cons, List.filter_cons, List.filter_cons, List.filter_nil]
  cases keeps "theme".toList <;> cases keeps "max_history".toList <;>
    cases keeps "persist_history".toList <;> rfl

theorem fieldOr_kept {α : Type} {usual own : α} {decode : Json.Value → Option α}
    {value : Json.Value} (decoded : decode value = some own) (kept : Bool) :
    fieldOr usual decode (if kept then some value else none) =
      some (if kept then own else usual) := by
  cases kept with
  | true => exact decoded
  | false => rfl

/-- **Missing fields have their usual values and unknown ones are passed over.** -/
theorem ofFile?_of_isDocument {settings : Settings}
    (fits : settings.maxHistory < Json.Numeral.wordLimit) (keeps : Text → Bool)
    {added fields : List (Json.Quotation × Json.Value)}
    (foreign : ∀ field ∈ added, ∃ name,
      Json.Quotation.text? field.1 = some name ∧ name ∉ fieldNames)
    (order : fields.Perm (settings.keptFields keeps ++ added)) {text : Text}
    (document : Json.IsDocument text (.object fields)) :
    ofFile? text = some (settings.keeping keeps) := by
  have distinct : ((settings.named.filter (fun field => keeps field.1)).map Prod.fst).Nodup := by
    have all : (settings.named.map Prod.fst).Nodup := by
      show fieldNames.Nodup
      decide
    exact all.sublist ((List.filter_sublist).map Prod.fst)
  have count : countOfJson? (.number (.ofNat settings.maxHistory)) = some settings.maxHistory :=
    Json.Numeral.nat64?_ofNat fits
  have persists : Json.Value.bool? (.bool settings.persistHistory) =
      some settings.persistHistory := rfl
  rw [ofFile?, Json.read?_of_isDocument document]
  show ofJson? (.object fields) = _
  rw [ofJson?, Json.Value.record?_of_perm distinct foreign order, lookup_named]
  simp only [Option.bind_eq_bind, Option.bind_some, fieldOr_kept (themeOfJson?_name _),
    fieldOr_kept count, fieldOr_kept persists]
  rfl

/-- What a file holds is loaded from it. -/
theorem load_of_ofFile? {store : Store} {path text : Text} {settings : Settings}
    (content : store.disk.read path = .ok text) (holds : ofFile? text = some settings) :
    load store path = (settings, store) := by
  obtain ⟨place, found⟩ := Disk.find_of_read content
  have present : store.disk.exists? path = true := by rw [Disk.exists?, found]
  rw [load, present, content]
  dsimp only
  rw [holds]
  rfl

/-- **The settings file is read whatever it lacks or holds besides.** Settings are loaded as they
were saved. The text that is saved for them is one of an object with all their fields; any text of
an object with some of these fields, in any order and among fields of other names with any values,
is loaded as the settings with the usual value for each field that is left out. -/
theorem load_of_fields {settings : Settings}
    (fits : settings.maxHistory < Json.Numeral.wordLimit) :
    (∀ (disk saved : Disk) (path : Text) (journal : List Record),
      settings.save disk path = (saved, .ok ()) →
        saved.read path = .ok settings.fileText ∧
          load ⟨saved, journal⟩ path = (settings, ⟨saved, journal⟩)) ∧
      Json.IsDocument settings.fileText (.object (settings.keptFields (fun _ => true))) ∧
      ∀ (keeps : Text → Bool) (added fields : List (Json.Quotation × Json.Value)) (text : Text),
        (∀ field ∈ added, ∃ name,
          Json.Quotation.text? field.1 = some name ∧ name ∉ fieldNames) →
        fields.Perm (settings.keptFields keeps ++ added) →
        Json.IsDocument text (.object fields) →
        ∀ (store : Store) (path : Text), store.disk.read path = .ok text →
          load store path = (settings.keeping keeps, store) := by
  refine ⟨?_, ?_, ?_⟩
  · intro disk saved path journal success
    obtain ⟨-, content, -⟩ := Disk.read_of_save success
    exact ⟨content, load_of_ofFile? content (ofFile?_fileText fits)⟩
  · rw [← toJson_eq]
    exact (Json.spells_spread settings.isProper_toJson 0).isDocument
  · intro keeps added fields text foreign order document store path content
    exact load_of_ofFile? content (ofFile?_of_isDocument fits keeps foreign order document)

/-! ## An unusual file -/

/-- A field that is not known, with a value of several levels. -/
def unknownField : Json.Quotation × Json.Value :=
  (.ofText "note".toList,
   .array [.array [], .object [(.ofText "theme".toList,
     .number ⟨true, ['1'], none, some (false, ['5'])⟩)]])

/-- The text of the field: a letter of its name is escaped, and gaps stand between its parts. -/
def unknownText : Text := " \"\\u006Eote\" : [ [],\x7b\"theme\":-1E5\x7d]\n".toList

/-- A file without one of the fields, the others turned round and the unknown one between them. -/
def unusualText : Text :=
  "\x7b\"max_history\":18446744073709551615,".toList ++ unknownText
    ++ ",\"theme\":\"nord\"\x7d".toList

theorem spells_unknownText : Json.Spells unknownText (.fields [unknownField]) := by
  have blank : Json.IsGap [' '] := fun c member => List.mem_singleton.mp member ▸ rfl
  have line : Json.IsGap ['\n'] := fun c member => List.mem_singleton.mp member ▸ rfl
  have proper : Json.Numeral.IsProper ⟨true, ['1'], none, some (false, ['5'])⟩ :=
    ⟨Text.isDigits_ofNat 1, by decide, by simp, fun _ same => by
      cases same
      exact Text.isDigits_ofNat 5⟩
  have number : Json.Numeral.Spells "-1E5".toList ⟨true, ['1'], none, some (false, ['5'])⟩ :=
    .numeral proper (.unsigned (.inr rfl) ['5'])
  have inner : Json.Quotation.Spells "\"theme\"".toList (.ofText "theme".toList) :=
    Json.Quotation.spells_written (Json.Quotation.isProper_ofText "theme".toList)
  have escaped : Json.Piece.Spells "\\u006E".toList (.plain 'n') :=
    @Json.Piece.Spells.code '0' '0' '6' 'E' 0 0 6 14 ⟨by decide, .inl rfl⟩ ⟨by decide, .inl rfl⟩
      ⟨by decide, .inl rfl⟩ ⟨by decide, .inr rfl⟩
  have letter {c : Char} (visible : 0x20 ≤ c.toNat ∧ c ≠ '"' ∧ c ≠ '\\') :
      Json.Piece.Spells [c] (.plain c) := .plain visible.1 visible.2.1 visible.2.2
  have name : Json.Quotation.Spells "\"\\u006Eote\"".toList (.ofText "note".toList) :=
    .quoted (.cons escaped (.cons (letter (by decide)) (.cons (letter (by decide))
      (.cons (letter (by decide)) .nil))))
  have object := Json.Spells.object (.field Json.isGap_nil inner Json.isGap_nil Json.isGap_nil
    (.number number) Json.isGap_nil)
  have array := Json.Spells.array (.items (.item blank (.emptyArray Json.isGap_nil) Json.isGap_nil)
    (.item Json.isGap_nil object Json.isGap_nil))
  exact .field blank name blank blank array line

theorem load_of_fields_unusual :
    (⟨.nord, 18446744073709551615, false⟩ : Settings).maxHistory < Json.Numeral.wordLimit ∧
      load ⟨⟨[(["s".toList], .file unusualText)], []⟩, []⟩ "s".toList =
        (⟨.nord, 18446744073709551615, true⟩, ⟨⟨[(["s".toList], .file unusualText)], []⟩, []⟩) := by
  have fits : (⟨.nord, 18446744073709551615, false⟩ : Settings).maxHistory <
      Json.Numeral.wordLimit := by decide
  have written : (Json.Numeral.ofNat 18446744073709551615).written =
      "18446744073709551615".toList := by decide
  have number := Json.Numeral.spells_written (Json.Numeral.isProper_ofNat 18446744073709551615)
  rw [written] at number
  have key (name : Text) := Json.Quotation.spells_written (Json.Quotation.isProper_ofText name)
  have count := Json.Spells.field Json.isGap_nil (key "max_history".toList) Json.isGap_nil
    Json.isGap_nil (.number number) Json.isGap_nil
  have theme := Json.Spells.field Json.isGap_nil (key "theme".toList) Json.isGap_nil
    Json.isGap_nil (.string (key "nord".toList)) Json.isGap_nil
  have fields := Json.Spells.fields count (.fields spells_unknownText theme)
  have document := (Json.Spells.object fields).isDocument
  refine ⟨fits, (load_of_fields fits).2.2 (fun name => name ≠ "persist_history".toList)
    [unknownField] _ unusualText ?_ ?_ document _ _ rfl⟩
  · intro field member
    rw [List.mem_singleton.mp member]
    exact ⟨_, Json.Quotation.text?_ofText _, by decide⟩
  · exact List.perm_append_singleton _ [_, _]

end Settings

end Reckoner
