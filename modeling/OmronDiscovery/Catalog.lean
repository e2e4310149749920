import OmronDiscovery.HonestController

/-!
# `list_signals`

`list_signals` runs `get_variables_fast` and builds the catalog: one JSON
object per variable whose type, and for an array whose element type, is
recognised and not a structure, with the name, the type's name from
`to_string`, and for an array the pairs `[start, start + dimension]`.

* `DataTypeCodes.toString`, `includeSignalDataTypeInList`, `catalogEntry` (the
  body of the loop, with its `assert`), `catalog`, and `Requester.listSignals`
  with `listSignals`, its run against a `Controller`;
* `getVariablesFast_consistent`: every variable `get_variables_fast` returns
  has as many start indices as dimensions, and `getVariablesFast_length`: it
  returns as many variables as announced, whatever the controller;
  `getVariables_returned`: the same of `get_variables`;
* `listSignals_error_iff`: the `assert` of the catalog never fires, so
  `list_signals` fails exactly when `get_variables_fast` does;
* `describedSymbol`, the record the catalog's description gives a variable, and
  `catalog_filterMap`: over arrays with as many start indices as dimensions the
  catalog is the filter-map of the described records, and names no unknown type
  and no structure; `listSignals_catalog`: so it is over every list of
  variables `get_variables_fast` returns, each with array information exactly
  for the `Array` type byte;
* `listSignals_eq_ok_iff`: `list_signals` returns exactly the described records
  of what `get_variables_fast` returns, and `listSignals_honest`: against the
  spec's honest controller, those of its first `count` variables.
-/

namespace OmronDiscovery

/-! ## The type's name -/

/-- The name `to_string` gives each enumerator. -/
def DataTypeName.toString : DataTypeName → String
  | undefined => "UNDEFINED"
  | date => "DATE"
  | time => "TIME"
  | dateAndTime => "DATE_AND_TIME"
  | timeOfDay => "TIME_OF_DAY"
  | bool => "BOOL"
  | sint => "SINT"
  | int => "INT"
  | dint => "DINT"
  | lint => "LINT"
  | usint => "USINT"
  | uint => "UINT"
  | udint => "UDINT"
  | ulint => "ULINT"
  | real => "REAL"
  | lreal => "LREAL"
  | string => "STRING"
  | byte => "BYTE"
  | word => "WORD"
  | dword => "DWORD"
  | lword => "LWORD"
  | time2 => "TIME2"
  | abbreviatedStructure => "ABBREVIATED_STRUCTURE"
  | «structure» => "STRUCTURE"
  | array => "ARRAY"

/-- The case labels of the `switch` of `to_string`, in order. -/
def DataTypeName.all : List DataTypeName :=
  undefined :: validNames

/-- `to_string(type)`: the name of the enumerator whose byte `type` is, and
otherwise `Unknown(<hex>)`, the byte in lower-case hexadecimal. -/
def DataTypeCodes.toString (codes : DataTypeCodes) (type : UInt8) : String :=
  match DataTypeName.all.find? fun name => codes.code name = type with
  | some name => name.toString
  | none => "Unknown(" ++ String.mk (Nat.toDigits 16 type.toNat) ++ ")"

theorem DataTypeName.mem_all (name : DataTypeName) : name ∈ all := by
  cases name <;> decide

/-- The byte of an enumerator is named after it: the codes are distinct, so
the `switch` reaches its label. -/
theorem DataTypeCodes.toString_code (codes : DataTypeCodes) (name : DataTypeName) :
    codes.toString (codes.code name) = name.toString := by
  have found : DataTypeName.all.find? (fun other => codes.code other = codes.code name) =
      some name := by
    have present : (DataTypeName.all.find? fun other => codes.code other = codes.code name).isSome :=
      List.find?_isSome.2 ⟨name, DataTypeName.mem_all name, decide_eq_true rfl⟩
    obtain ⟨first, firstFound⟩ := Option.isSome_iff_exists.1 present
    have chosen := List.find?_some firstFound
    rw [firstFound, codes.code_injective (of_decide_eq_true chosen)]
  rw [DataTypeCodes.toString, found]

example : DataTypeCodes.declarationOrder.toString 0xc8 = "Unknown(c8)" := by decide

/-! ## The catalog -/

/-- `include_signal_data_type_in_list(data_type)`: a recognised type that is
not a structure. -/
def includeSignalDataTypeInList (codes : DataTypeCodes) (dataType : UInt8) : Bool :=
  if !isValidValue codes dataType then false
  else if dataType = codes.code .structure then false
  else if dataType = codes.code .abbreviatedStructure then false
  else true

/-- The JSON object `list_signals` builds for a variable: `name`, `type`, and
for an array `arrayDimensions`, the list of pairs `[start, end]`. -/
structure Symbol where
  name : List UInt8
  type : String
  arrayDimensions : Option (List (Nat × Nat))
  deriving DecidableEq, Repr

/-- The body of the loop of `list_signals` for one variable: no object when its
type, or its element type, is filtered out; otherwise the object, the `assert`
on the lengths of the two lists of an array modelled as a fault, and each end
`start_indices[i] + dimensions[i]` a `size_t` sum. -/
def catalogEntry (codes : DataTypeCodes) (var : VariableInfo) : Except Fault (Option Symbol) :=
  if !includeSignalDataTypeInList codes var.dataType then .ok none
  else
    match var.arrayInfo with
    | none => .ok (some ⟨var.name, codes.toString var.dataType, none⟩)
    | some arr =>
        if !includeSignalDataTypeInList codes arr.elementType then .ok none
        else if arr.dimensions.length = arr.startIndices.length then
          .ok (some ⟨var.name, codes.toString arr.elementType,
            some ((arr.startIndices.zip arr.dimensions).map fun bounds =>
              (bounds.1, (bounds.1 + bounds.2) % sizeModulus))⟩)
        else .error (.assertionFailed "array_info.dimensions.size() == array_info.start_indices.size()")

/-- The loop of `list_signals` over the variables, in order. -/
def catalog (codes : DataTypeCodes) : List VariableInfo → Except Fault (List Symbol)
  | [] => .ok []
  | var :: vars => do
      let entry ← catalogEntry codes var
      let symbols ← catalog codes vars
      pure (entry.toList ++ symbols)

/-- `list_signals(base_attributes)`, over the request context built from the
attributes: `get_variables_fast`, then the catalog. -/
def Requester.listSignals (host : Endian) (codes : DataTypeCodes) (requester : Requester)
    (fuel : Nat) (rc : RequestContext) : Except Fault (List Symbol) := do
  let (vars, _) ← Requester.getVariablesFast host codes requester fuel rc
  catalog codes vars

/-- `list_signals` against `controller`. -/
def listSignals (host : Endian) (codes : DataTypeCodes) (controller : Controller) (fuel : Nat)
    (rc : RequestContext) : Except Fault (List Symbol) :=
  Requester.listSignals host codes (RequestContext.request controller) fuel rc

/-! ## The catalog as described

The catalog's description, read on its own words: a type is listed when
`is_valid_value` recognises it and it is neither `Structure` nor
`AbbreviatedStructure`, and each variable gives at most one record. -/

/-- The types the catalog lists. -/
def Listed (codes : DataTypeCodes) (dataType : UInt8) : Bool :=
  isValidValue codes dataType && decide (dataType ≠ codes.code .structure) &&
    decide (dataType ≠ codes.code .abbreviatedStructure)

/-- The record the description gives a variable: none unless its type, and for
an array its element type, is listed; otherwise its name, the name of its
element type for an array and of its type otherwise, and for an array the
pairs `[start_i, start_i + dim_i]` in dimension order. -/
def describedSymbol (codes : DataTypeCodes) (var : VariableInfo) : Option Symbol :=
  match var.arrayInfo with
  | none =>
      if Listed codes var.dataType then some ⟨var.name, codes.toString var.dataType, none⟩
      else none
  | some arr =>
      if Listed codes var.dataType && Listed codes arr.elementType then
        some ⟨var.name, codes.toString arr.elementType,
          some (List.zipWith (fun start dim => (start, start + dim)) arr.startIndices
            arr.dimensions)⟩
      else none

theorem includeSignalDataTypeInList_eq_listed (codes : DataTypeCodes) (dataType : UInt8) :
    includeSignalDataTypeInList codes dataType = Listed codes dataType := by
  unfold includeSignalDataTypeInList Listed
  split_ifs <;> simp_all

/-- The `size_t` ends of an array's pairs are the exact sums when its numbers
are below `2^32`. -/
theorem map_zip_mod_of_lt {starts dims : List Nat} (bounded : ∀ n ∈ dims ++ starts, n < 2 ^ 32) :
    (starts.zip dims).map (fun bounds => (bounds.1, (bounds.1 + bounds.2) % sizeModulus)) =
      List.zipWith (fun start dim => (start, start + dim)) starts dims := by
  have exact : ∀ bounds ∈ starts.zip dims,
      (bounds.1, (bounds.1 + bounds.2) % sizeModulus) = (bounds.1, bounds.1 + bounds.2) := by
    rintro ⟨start, dim⟩ mem
    obtain ⟨startMem, dimMem⟩ := List.of_mem_zip mem
    have startLt := bounded start (List.mem_append_right _ startMem)
    have dimLt := bounded dim (List.mem_append_left _ dimMem)
    rw [Nat.mod_eq_of_lt (by unfold sizeModulus; omega)]
  rw [List.map_congr_left exact, List.zip_eq_zipWith, List.map_zipWith]

/-- The loop body gives the described record of a variable whose two lists of
an array have one length and hold values below `2^32`. -/
theorem catalogEntry_eq (codes : DataTypeCodes) (var : VariableInfo)
    (sameLengths : ∀ arr ∈ var.arrayInfo, arr.dimensions.length = arr.startIndices.length)
    (bounded : var.Bounded) :
    catalogEntry codes var = .ok (describedSymbol codes var) := by
  rcases var with ⟨name, dataType, size, _ | arr⟩
  · cases listed : Listed codes dataType <;>
      simp [catalogEntry, describedSymbol, includeSignalDataTypeInList_eq_listed, listed]
  · have same := sameLengths arr rfl
    have ends := map_zip_mod_of_lt (bounded arr rfl)
    cases listed : Listed codes dataType <;> cases elementListed : Listed codes arr.elementType <;>
      simp [catalogEntry, describedSymbol, includeSignalDataTypeInList_eq_listed, listed,
        elementListed, same, ends]

theorem catalog_eq_filterMap (codes : DataTypeCodes) (vars : List VariableInfo)
    (sameLengths : ∀ var ∈ vars, ∀ arr ∈ var.arrayInfo,
      arr.dimensions.length = arr.startIndices.length)
    (bounded : ∀ var ∈ vars, var.Bounded) :
    catalog codes vars = .ok (vars.filterMap (describedSymbol codes)) := by
  induction vars with
  | nil => rfl
  | cons var vars inductionHypothesis =>
      rw [catalog, catalogEntry_eq codes var (sameLengths var (.head _)) (bounded var (.head _)),
        inductionHypothesis (fun other mem => sameLengths other (.tail _ mem))
          (fun other mem => bounded other (.tail _ mem)), List.filterMap_cons]
      cases describedSymbol codes var <;> rfl

/-- A listed type is named after an enumerator other than the two structures. -/
theorem toString_of_listed {codes : DataTypeCodes} {dataType : UInt8}
    (listed : Listed codes dataType = true) :
    ∃ name : DataTypeName, name ≠ .structure ∧ name ≠ .abbreviatedStructure ∧
      codes.toString dataType = name.toString := by
  simp only [Listed, Bool.and_eq_true, decide_eq_true_eq] at listed
  obtain ⟨⟨valid, notStructure⟩, notAbbreviated⟩ := listed
  obtain ⟨name, -, named⟩ : ∃ name ∈ DataTypeName.validNames, codes.code name = dataType := by
    simpa [isValidValue] using valid
  subst named
  exact ⟨name, fun same => notStructure (congrArg codes.code same),
    fun same => notAbbreviated (congrArg codes.code same), codes.toString_code name⟩

/-- The names of the enumerators other than the two structures. -/
theorem DataTypeName.toString_listed (name : DataTypeName) (notStructure : name ≠ .structure)
    (notAbbreviated : name ≠ .abbreviatedStructure) :
    ¬ "Unknown(".toList <+: name.toString.toList ∧ name.toString ≠ "STRUCTURE" ∧
      name.toString ≠ "ABBREVIATED_STRUCTURE" := by
  revert notStructure notAbbreviated
  cases name <;> decide

theorem type_of_mem_filterMap {codes : DataTypeCodes} {vars : List VariableInfo} {symbol : Symbol}
    (mem : symbol ∈ vars.filterMap (describedSymbol codes)) :
    ∃ dataType, Listed codes dataType = true ∧ symbol.type = codes.toString dataType := by
  obtain ⟨⟨name, dataType, size, arrayInfo⟩, -, described⟩ := List.mem_filterMap.1 mem
  cases arrayInfo with
  | none =>
      simp only [describedSymbol, Option.ite_none_right_eq_some, Option.some.injEq] at described
      exact ⟨dataType, described.1, by rw [← described.2]⟩
  | some arr =>
      simp only [describedSymbol, Option.ite_none_right_eq_some, Option.some.injEq,
        Bool.and_eq_true] at described
      exact ⟨arr.elementType, described.1.2, by rw [← described.2]⟩

/-- Over variables whose arrays have as many start indices as dimensions, all
below `2^32`, the catalog is the order-preserving filter-map of the described
records, so no type it names is an `Unknown(..)` string or one of the two
structures. -/
theorem catalog_filterMap (codes : DataTypeCodes) (vars : List VariableInfo)
    (sameLengths : ∀ var ∈ vars, ∀ arr ∈ var.arrayInfo,
      arr.dimensions.length = arr.startIndices.length)
    (bounded : ∀ var ∈ vars, var.Bounded) :
    catalog codes vars = .ok (vars.filterMap (describedSymbol codes)) ∧
      ∀ symbol ∈ vars.filterMap (describedSymbol codes),
        ¬ "Unknown(".toList <+: symbol.type.toList ∧ symbol.type ≠ "STRUCTURE" ∧
          symbol.type ≠ "ABBREVIATED_STRUCTURE" := by
  refine ⟨catalog_eq_filterMap codes vars sameLengths bounded, fun symbol mem => ?_⟩
  obtain ⟨dataType, listed, typed⟩ := type_of_mem_filterMap mem
  obtain ⟨name, notStructure, notAbbreviated, named⟩ := toString_of_listed listed
  rw [typed, named]
  exact name.toString_listed notStructure notAbbreviated

/-- A scalar `INT`, a structure, an `INT` array and an array of an unknown
element type: the catalog lists the scalar and the `INT` array. -/
example :
    catalog .declarationOrder
        [⟨[0x41], 7, 2, none⟩, ⟨[0x42], 23, 8, none⟩, ⟨[0x43], 24, 6, some ⟨7, 2, [3], [1]⟩⟩,
          ⟨[0x44], 24, 4, some ⟨0xc8, 4, [2], [0]⟩⟩] =
      .ok [⟨[0x41], "INT", none⟩, ⟨[0x43], "INT", some [(1, 4)]⟩] :=
  rfl

/-! ## What `get_variables_fast` returns -/

section Loops

variable (host : Endian) (codes : DataTypeCodes) (requester : Requester)

/-- The last loop, when it returns, returns one variable per index, each as
`get_variable_info` leaves it. -/
theorem resolveVariables_returned (names : List (List UInt8)) (count : Nat) :
    ∀ (i : Nat) (rc : RequestContext) (vars : List VariableInfo) (rc' : RequestContext),
      Requester.resolveVariables host codes requester names count i rc = .ok (vars, rc') →
      vars.length = count ∧ ∀ var ∈ vars, var.Consistent codes ∧ var.Bounded := by
  induction count with
  | zero =>
      intro i rc vars rc' returned
      cases returned
      exact ⟨rfl, fun _ mem => absurd mem (List.not_mem_nil _)⟩
  | succ count inductionHypothesis =>
      intro i rc vars rc' returned
      rw [Requester.resolveVariables] at returned
      split at returned
      · obtain ⟨⟨var, rc₁⟩, resolved, afterVar⟩ := exists_of_bind_eq_ok returned
        obtain ⟨⟨rest, rc₂⟩, restResolved, packed⟩ := exists_of_bind_eq_ok afterVar
        cases packed
        obtain ⟨restLength, restConsistent⟩ := inductionHypothesis (i + 1) rc₁ rest _ restResolved
        refine ⟨by rw [List.length_cons, restLength], fun other mem => ?_⟩
        rcases List.mem_cons.1 mem with rfl | later
        · exact getVariableInfo_consistent host codes resolved
        · exact restConsistent other later
      · cases returned

/-- A successful `get_variables_fast` is the last loop, over the announced
count and some names, after `get_num_variables`. -/
theorem getVariablesFast_resolved (fuel : Nat) (rc : RequestContext) {vars : List VariableInfo}
    {rc' : RequestContext}
    (returned : Requester.getVariablesFast host codes requester fuel rc = .ok (vars, rc')) :
    ∃ num rc₁ names rc₂, Requester.getNumVariables host requester rc = .ok (num, rc₁) ∧
      Requester.resolveVariables host codes requester names num 0 rc₂ = .ok (vars, rc') := by
  obtain ⟨⟨num, rc₁⟩, counted, afterCount⟩ := exists_of_bind_eq_ok returned
  obtain ⟨⟨systemNames, _⟩, -, afterSystem⟩ := exists_of_bind_eq_ok afterCount
  obtain ⟨⟨names, rc₂⟩, -, resolved⟩ := exists_of_bind_eq_ok afterSystem
  exact ⟨num, rc₁, names, rc₂, counted, resolved⟩

/-- Every variable `get_variables_fast` returns, whatever the requests
return, has array information exactly for the `Array` type byte, with as many
start indices as dimensions, all below `2^32`. -/
theorem getVariablesFast_consistent (fuel : Nat) (rc : RequestContext) {vars : List VariableInfo}
    {rc' : RequestContext}
    (returned : Requester.getVariablesFast host codes requester fuel rc = .ok (vars, rc')) :
    ∀ var ∈ vars, var.Consistent codes ∧ var.Bounded := by
  obtain ⟨num, -, names, rc₂, -, resolved⟩ :=
    getVariablesFast_resolved host codes requester fuel rc returned
  exact (resolveVariables_returned host codes requester names num 0 rc₂ vars rc' resolved).2

/-- The loop of `get_variables`, when it returns, returns one variable per
instance, each as `get_variable_info` leaves it. -/
theorem readVariables_returned (count : Nat) :
    ∀ (i : Nat) (rc : RequestContext) (vars : List VariableInfo) (rc' : RequestContext),
      Requester.readVariables host codes requester count i rc = .ok (vars, rc') →
      vars.length = count ∧ ∀ var ∈ vars, var.Consistent codes := by
  induction count with
  | zero =>
      intro i rc vars rc' returned
      cases returned
      exact ⟨rfl, fun _ mem => absurd mem (List.not_mem_nil _)⟩
  | succ count inductionHypothesis =>
      intro i rc vars rc' returned
      obtain ⟨⟨name, rc₀⟩, -, afterName⟩ := exists_of_bind_eq_ok returned
      obtain ⟨⟨var, rc₁⟩, resolved, afterVar⟩ := exists_of_bind_eq_ok afterName
      obtain ⟨⟨rest, rc₂⟩, restRead, packed⟩ := exists_of_bind_eq_ok afterVar
      cases packed
      obtain ⟨restLength, restConsistent⟩ := inductionHypothesis (i + 1) rc₁ rest _ restRead
      exact ⟨by rw [List.length_cons, restLength],
        List.forall_mem_cons.2 ⟨(getVariableInfo_consistent host codes resolved).1, restConsistent⟩⟩

end Loops

section Returned

variable (host : Endian) (codes : DataTypeCodes) (controller : Controller)

theorem listSignals_eq_bind (fuel : Nat) (rc : RequestContext) :
    listSignals host codes controller fuel rc =
      (do let (vars, _) ← getVariablesFast host codes controller fuel rc; catalog codes vars) :=
  rfl

/-- Whatever the controller answers, a successful `get_variables_fast`
returns as many variables as `get_num_variables` announced. -/
theorem getVariablesFast_length (fuel : Nat) (rc : RequestContext) {vars : List VariableInfo}
    {rc' : RequestContext} (returned : getVariablesFast host codes controller fuel rc = .ok (vars, rc')) :
    ∃ rc₁, getNumVariables host controller rc = .ok (vars.length, rc₁) := by
  obtain ⟨num, rc₁, names, rc₂, counted, resolved⟩ :=
    getVariablesFast_resolved host codes _ fuel rc returned
  rw [(resolveVariables_returned host codes _ names num 0 rc₂ vars rc' resolved).1]
  exact ⟨rc₁, counted⟩

theorem getVariablesFast_length_twoOfThree :
    ∃ rc₁, getNumVariables .little Honest.twoOfThree.controller (.fresh 260 (by decide)) =
      .ok (2, rc₁) := by
  obtain ⟨rc', run⟩ := getVariablesFast_honest_run .little .declarationOrder Honest.twoOfThree 3
    (.fresh 260 (by decide)) ⟨by decide, by decide⟩ (List.length_replicate ..).ge rfl
  exact getVariablesFast_length .little .declarationOrder _ 3 _ run

/-- Whatever the controller answers, a successful `get_variables` returns as
many variables as `get_num_variables` announced, each with array information
exactly for the `Array` type byte and as many start indices as dimensions. -/
theorem getVariables_returned (rc : RequestContext) {vars : List VariableInfo}
    {rc' : RequestContext} (returned : getVariables host codes controller rc = .ok (vars, rc')) :
    (∃ rc₁, getNumVariables host controller rc = .ok (vars.length, rc₁)) ∧
      ∀ var ∈ vars, var.Consistent codes := by
  obtain ⟨⟨num, rc₁⟩, counted, read⟩ := exists_of_bind_eq_ok returned
  obtain ⟨length, consistent⟩ := readVariables_returned host codes _ num 0 rc₁ vars rc' read
  exact ⟨⟨rc₁, by rw [length]; exact counted⟩, consistent⟩

/-- A controller announcing one variable: instance `1` is named `A`, and every
name is a scalar of type byte 8 and size 4. -/
def oneNameController : Controller := fun _ request =>
  if request = [0x01, 0x03, 0x20, 0x6a, 0x25, 0x00, 0x00, 0x00] then .ok [0, 0, 1, 0]
  else if request = [0x01, 0x03, 0x20, 0x6a, 0x25, 0x00, 0x01, 0x00] then .ok [0, 0, 0, 0, 1, 0x41]
  else .ok [4, 0, 0, 0, 8]

theorem getVariables_returned_oneName :
    (∃ rc₁, getNumVariables .little oneNameController (.fresh 8 (by decide)) = .ok (1, rc₁)) ∧
      ∀ var ∈ [(⟨[0x41], 8, 4, none⟩ : VariableInfo)], var.Consistent .declarationOrder := by
  have reached : (getVariables .little .declarationOrder oneNameController
      (.fresh 8 (by decide))).toOption.map Prod.fst = some [⟨[0x41], 8, 4, none⟩] := by
    decide
  obtain ⟨rc', run⟩ := exists_ok_of_toOption reached
  exact getVariables_returned .little .declarationOrder oneNameController _ run

/-- After a successful `get_variables_fast` the `assert` of the catalog never
fires, and `list_signals` returns the described records. -/
theorem listSignals_of_fetched (fuel : Nat) (rc : RequestContext)
    {result : List VariableInfo × RequestContext}
    (fetched : getVariablesFast host codes controller fuel rc = .ok result) :
    listSignals host codes controller fuel rc = .ok (result.1.filterMap (describedSymbol codes)) := by
  have consistent := getVariablesFast_consistent host codes _ fuel rc fetched
  simp only [listSignals_eq_bind, fetched, bind, Except.bind]
  exact catalog_eq_filterMap codes result.1
    (fun var mem arr isArray => ((consistent var mem).1.2 arr isArray).1)
    fun var mem => (consistent var mem).2

/-- The catalog `list_signals` builds, from whatever `get_variables_fast`
returns against any controller: every variable has array information exactly
for the `Array` type byte, the catalog loop gives the order-preserving
filter-map of the described records without its `assert` firing, and no type
it names is an `Unknown(..)` string or one of the two structures. -/
theorem listSignals_catalog (fuel : Nat) (rc : RequestContext) {vars : List VariableInfo}
    {rc' : RequestContext} (returned : getVariablesFast host codes controller fuel rc = .ok (vars, rc')) :
    (∀ var ∈ vars, (var.arrayInfo.isSome ↔ var.dataType = codes.code .array)) ∧
      catalog codes vars = .ok (vars.filterMap (describedSymbol codes)) ∧
      listSignals host codes controller fuel rc = .ok (vars.filterMap (describedSymbol codes)) ∧
      ∀ symbol ∈ vars.filterMap (describedSymbol codes),
        ¬ "Unknown(".toList <+: symbol.type.toList ∧ symbol.type ≠ "STRUCTURE" ∧
          symbol.type ≠ "ABBREVIATED_STRUCTURE" := by
  have consistent := getVariablesFast_consistent host codes _ fuel rc returned
  obtain ⟨catalogued, named⟩ := catalog_filterMap codes vars
    (fun var mem arr isArray => ((consistent var mem).1.2 arr isArray).1)
    fun var mem => (consistent var mem).2
  exact ⟨fun var mem => (consistent var mem).1.1, catalogued,
    listSignals_of_fetched host codes controller fuel rc returned, named⟩

theorem listSignals_catalog_twoOfThree :
    let vars : List VariableInfo := [⟨[0x41], 8, 4, none⟩, ⟨[0x42], 24, 6, some ⟨7, 2, [3], [1]⟩⟩]
    (∀ var ∈ vars,
        (var.arrayInfo.isSome ↔ var.dataType = DataTypeCodes.declarationOrder.code .array)) ∧
      catalog .declarationOrder vars = .ok (vars.filterMap (describedSymbol .declarationOrder)) ∧
      listSignals .little .declarationOrder Honest.twoOfThree.controller 3 (.fresh 260 (by decide)) =
        .ok (vars.filterMap (describedSymbol .declarationOrder)) ∧
      ∀ symbol ∈ vars.filterMap (describedSymbol .declarationOrder),
        ¬ "Unknown(".toList <+: symbol.type.toList ∧ symbol.type ≠ "STRUCTURE" ∧
          symbol.type ≠ "ABBREVIATED_STRUCTURE" := by
  obtain ⟨rc', run⟩ := getVariablesFast_honest_run .little .declarationOrder Honest.twoOfThree 3
    (.fresh 260 (by decide)) ⟨by decide, by decide⟩ (List.length_replicate ..).ge rfl
  exact listSignals_catalog .little .declarationOrder _ 3 _ run

/-- The `assert` of the catalog never fires on what `get_variables_fast`
returns: `list_signals` fails, from any controller, exactly when
`get_variables_fast` fails, and with the same fault. -/
theorem listSignals_error_iff (fuel : Nat) (rc : RequestContext) (fault : Fault) :
    listSignals host codes controller fuel rc = .error fault ↔
      getVariablesFast host codes controller fuel rc = .error fault := by
  cases fetched : getVariablesFast host codes controller fuel rc with
  | error e =>
      simp only [listSignals_eq_bind, fetched, bind, Except.bind, Except.error.injEq]
  | ok result =>
      rw [listSignals_of_fetched host codes controller fuel rc fetched]
      exact ⟨nofun, nofun⟩

/-- Whatever the controller answers, `list_signals` returns exactly the
described records of the variables `get_variables_fast` returns, in order. -/
theorem listSignals_eq_ok_iff (fuel : Nat) (rc : RequestContext) (symbols : List Symbol) :
    listSignals host codes controller fuel rc = .ok symbols ↔
      ∃ vars rc', getVariablesFast host codes controller fuel rc = .ok (vars, rc') ∧
        symbols = vars.filterMap (describedSymbol codes) := by
  cases fetched : getVariablesFast host codes controller fuel rc with
  | error fault => simp [listSignals_eq_bind, fetched, bind, Except.bind]
  | ok result =>
      rw [listSignals_of_fetched host codes controller fuel rc fetched]
      simp only [Except.ok.injEq]
      constructor
      · rintro rfl
        exact ⟨result.1, result.2, rfl, rfl⟩
      · rintro ⟨vars, rc', rfl, rfl⟩
        rfl

end Returned

/-! ## Against an honest controller -/

/-- Against an honest controller, whatever class and instance-id bytes and
padding its records carry and whatever its reserved bytes, on a little-endian
send buffer of at least 260 bytes and with more fuel than instances of either
type, `list_signals` returns the described records of the first `count` names
listed, System names before User names, each with the descriptor the
controller lays out for it. -/
theorem listSignals_honest (host : Endian) (codes : DataTypeCodes) (h : Honest codes)
    (fuel : Nat) (rc : RequestContext) (enough : h.system.length < fuel ∧ h.user.length < fuel)
    (room : 260 ≤ rc.serializer.buffer.length) (little : rc.serializer.endianess = .little) :
    listSignals host codes h.controller fuel rc =
      .ok (((((h.system ++ h.user).map (·.name)).take h.count).map fun name =>
        descriptorOf codes name (h.descriptor name)).filterMap (describedSymbol codes)) := by
  obtain ⟨rc', run⟩ := getVariablesFast_honest_run host codes h fuel rc enough room little
  exact listSignals_of_fetched host codes h.controller fuel rc run

/-- The two announced variables of `Honest.twoOfThree`, a scalar of type byte 8
and an array of three `INT`s from index 1, are listed as `DINT` and `INT`. -/
theorem listSignals_honest_twoOfThree :
    listSignals .little .declarationOrder Honest.twoOfThree.controller 3 (.fresh 260 (by decide)) =
      .ok [⟨[0x41], "DINT", none⟩, ⟨[0x42], "INT", some [(1, 4)]⟩] :=
  (listSignals_honest .little .declarationOrder Honest.twoOfThree 3 (.fresh 260 (by decide))
    ⟨by decide, by decide⟩ (List.length_replicate ..).ge rfl).trans rfl

end OmronDiscovery
