import FilterQuery.Config.Document
import FilterQuery.Proofs.Json.Reading
import FilterQuery.Proofs.NameMap
import FilterQuery.Proofs.Results

namespace FilterQuery

open FilterQuery.Decimal

namespace Json

variable {α : Type} {j : Json}

/-- An object with these members, in any order and perhaps with others that are called otherwise
than the parts of the structure. -/
def Holds (parts : List String) (known : List (String × Json)) (j : Json) : Prop :=
  ∃ others members, (∀ m ∈ others, m.1 ∉ parts) ∧ members.Perm (known ++ others) ∧
    j = .record members

def HoldsMap (IsDocument : α → Json → Prop) (m : NameMap α) (j : Json) : Prop :=
  ∃ entries members, entries.Perm m.entries ∧
    List.Forall₂ (fun e member => e.1 = member.1 ∧ IsDocument e.2 member.2) entries members ∧
    j = .record members

/-- The member alone, or no member where it may be left out. -/
inductive Optional (usual : Prop) (m : String × Json) : List (String × Json) → Prop
  | given : Optional usual m [m]
  | leftOut (h : usual) : Optional usual m []

theorem holds_record (parts : List String) (known : List (String × Json)) :
    Holds parts known (.record known) :=
  ⟨[], known, List.forall_mem_nil _, by rw [List.append_nil], rfl⟩

theorem holdsMap_ofNameMap {IsDocument : α → Json → Prop} {encode : α → Json}
    (h : ∀ x, IsDocument x (encode x)) (m : NameMap α) :
    HoldsMap IsDocument m (ofNameMap encode m) := by
  refine ⟨m.entries, _, .refl _, ?_, rfl⟩
  rw [List.forall₂_map_right_iff, List.forall₂_same]
  exact fun e _ => ⟨rfl, h e.2⟩

theorem plain_ofNameMap {encode : α → Json} (h : ∀ x, (encode x).Plain) (m : NameMap α) :
    (ofNameMap encode m).Plain := by
  refine .record fun member hm => ?_
  obtain ⟨e, -, rfl⟩ := List.mem_map.mp hm
  exact h e.2

theorem exists_parts_of_holds {parts : List String} {known : List (String × Json)}
    (h : j.Holds parts known) (hknown : (known.map Prod.fst).Sublist parts) (hn : parts.Nodup) :
    ∃ p, j.parts? parts = some p ∧ ∀ name, p.get? name = known.lookup name := by
  obtain ⟨others, members, hothers, hperm, rfl⟩ := h
  have hnames : (known.map Prod.fst).Nodup := hknown.nodup hn
  have hfilter : (members.filter fun m => parts.contains m.1).Perm known := by
    refine (hperm.filter _).trans ?_
    rw [List.filter_append, List.filter_eq_self.mpr, List.filter_eq_nil_iff.mpr, List.append_nil]
    · intro m hm
      simpa using hothers m hm
    · intro m hm
      simpa using hknown.subset (List.mem_map_of_mem hm)
  refine ⟨⟨members.filter fun m => parts.contains m.1⟩, ?_, fun name => ?_⟩
  · refine Option.bind_eq_some_iff.mpr ⟨members, ?_, ?_⟩
    · rw [mapM_eq_some_iff, List.forall₂_map_left_iff, List.forall₂_same]
      exact fun _ _ => rfl
    · exact if_pos ((hfilter.map Prod.fst).nodup_iff.mpr hnames)
  · exact lookup_of_perm hfilter hnames name

namespace Optional

variable {usual : Prop} {name : String} {v : Json} {ms : List (String × Json)}

theorem names (h : Optional usual (name, v) ms) : (ms.map Prod.fst).Sublist [name] := by
  cases h with
  | given => exact .refl _
  | leftOut => exact List.nil_sublist _

theorem lookup_of_ne (h : Optional usual (name, v) ms) {other : String} (hne : other ≠ name) :
    ms.lookup other = none := by
  rw [lookup_eq_none_iff_not_mem]
  exact fun hm => hne (List.mem_singleton.mp (h.names.subset hm))

theorem readD {p : Parts} {decode : Json → Option α} {x y : α} (h : Optional usual (name, v) ms)
    (hget : p.get? name = ms.lookup name) (hv : decode v = some y) (hx : usual → x = y) :
    p.readD name decode x = some y := by
  rw [Parts.readD, hget]
  cases h with
  | given => simpa using hv
  | leftOut hu => exact congrArg some (hx hu)

end Optional

theorem nameMap?_of_holdsMap {IsDocument : α → Json → Prop} {decode : Json → Option α}
    (hd : ∀ x j, IsDocument x j → decode j = some x) {m : NameMap α}
    (h : j.HoldsMap IsDocument m) : nameMap? decode j = some m := by
  obtain ⟨entries, members, hperm, hmembers, rfl⟩ := h
  refine Option.bind_eq_some_iff.mpr ⟨entries, ?_, congrArg some (NameMap.ofList_of_perm hperm)⟩
  rw [mapM_eq_some_iff, List.forall₂_map_left_iff]
  refine hmembers.flip.imp fun m e h => ?_
  obtain ⟨hname, hdocument⟩ := h
  dsimp only
  rw [hd _ _ hdocument, ← hname]
  rfl

theorem word?_word (n : UInt64) : Json.word? (.word n) = some n := by
  show (Number.ofNat n.toNat).word? = _
  simp [Number.word?, Number.ofNat, Number.isPlain, value_digits, n.toNat_lt_size]

end Json

namespace Column

def IsDocument (c : Column) : Json → Prop :=
  Json.Holds ["column", "type"] [("column", .text c.name), ("type", .text c.type.name)]

theorem isDocument_toJson (c : Column) : c.IsDocument c.toJson := Json.holds_record _ _

theorem ofJson?_of_isDocument {c : Column} {j : Json} (h : c.IsDocument j) :
    ofJson? j = some c := by
  obtain ⟨p, hp, hget⟩ := Json.exists_parts_of_holds h (.refl _) (by decide)
  have hname : p.read "column" Json.string? = some c.name := by
    rw [Json.Parts.read, hget]
    rfl
  have htype : p.read "type" ColumnType.ofJson? = some c.type := by
    rw [Json.Parts.read, hget]
    show ColumnType.ofJson? (.text c.type.name) = _
    cases c.type <;> rfl
  rw [ofJson?, hp]
  simp [hname, htype]

end Column

namespace Entity

def IsDocument (e : Entity) (j : Json) : Prop :=
  ∃ fields, Json.HoldsMap Column.IsDocument e.fields fields ∧
    j.Holds ["table", "path", "fields"]
      [("table", .text e.table), ("path", .text e.path), ("fields", fields)]

theorem isDocument_toJson (e : Entity) : e.IsDocument e.toJson :=
  ⟨_, Json.holdsMap_ofNameMap Column.isDocument_toJson e.fields, Json.holds_record _ _⟩

theorem ofJson?_of_isDocument {e : Entity} {j : Json} (h : e.IsDocument j) :
    ofJson? j = some e := by
  obtain ⟨fields, hfields, hj⟩ := h
  obtain ⟨p, hp, hget⟩ := Json.exists_parts_of_holds hj (.refl _) (by decide)
  have htable : p.read "table" Json.string? = some e.table := by
    rw [Json.Parts.read, hget]
    rfl
  have hpath : p.read "path" Json.string? = some e.path := by
    rw [Json.Parts.read, hget]
    rfl
  have hread : p.read "fields" (Json.nameMap? Column.ofJson?) = some e.fields := by
    rw [Json.Parts.read, hget]
    exact Json.nameMap?_of_holdsMap (fun _ _ h => Column.ofJson?_of_isDocument h) hfields
  rw [ofJson?, hp]
  simp [htable, hpath, hread]

end Entity

namespace Pagination

def IsDocument (p : Pagination) (j : Json) : Prop :=
  ∃ maxSize defaultSize,
    Json.Optional (p.maxSize = 200) ("maxPageSize", .word p.maxSize) maxSize ∧
    Json.Optional (p.defaultSize = 20) ("defaultPageSize", .word p.defaultSize) defaultSize ∧
    j.Holds ["maxPageSize", "defaultPageSize"] (maxSize ++ defaultSize)

theorem isDocument_toJson (p : Pagination) : p.IsDocument p.toJson :=
  ⟨_, _, .given, .given, Json.holds_record _ _⟩

theorem ofJson?_of_isDocument {p : Pagination} {j : Json} (h : p.IsDocument j) :
    ofJson? j = some p := by
  obtain ⟨maxSize, defaultSize, hmax, hdefault, hj⟩ := h
  have hnames : ((maxSize ++ defaultSize).map Prod.fst).Sublist
      ["maxPageSize", "defaultPageSize"] := by
    rw [List.map_append]
    exact hmax.names.append hdefault.names
  obtain ⟨ps, hps, hget⟩ := Json.exists_parts_of_holds hj hnames (by decide)
  have hm : ps.readD "maxPageSize" Json.word? 200 = some p.maxSize := by
    refine hmax.readD ?_ (Json.word?_word _) Eq.symm
    rw [hget, List.lookup_append, hdefault.lookup_of_ne (by decide), Option.or_none]
  have hd : ps.readD "defaultPageSize" Json.word? 20 = some p.defaultSize := by
    refine hdefault.readD ?_ (Json.word?_word _) Eq.symm
    rw [hget, List.lookup_append, hmax.lookup_of_ne (by decide), Option.none_or]
  rw [ofJson?, hps]
  simp [hm, hd]

end Pagination

namespace Config

/-- The object holds all parts of the configuration, or leaves out a policy for pages that is the
usual one. -/
def IsDocument (c : Config) (j : Json) : Prop :=
  ∃ pagination pages entities, c.pagination.IsDocument pagination ∧
    Json.Optional (c.pagination = ⟨200, 20⟩) ("pagination", pagination) pages ∧
    Json.HoldsMap Entity.IsDocument c.entities entities ∧
    j.Holds ["baseUrl", "pagination", "entities"]
      (("baseUrl", .text c.baseUrl) :: (pages ++ [("entities", entities)]))

theorem isDocument_toJson (c : Config) : c.IsDocument c.toJson :=
  ⟨_, _, _, c.pagination.isDocument_toJson, .given,
    Json.holdsMap_ofNameMap Entity.isDocument_toJson c.entities, Json.holds_record _ _⟩

theorem ofJson?_of_isDocument {c : Config} {j : Json} (h : c.IsDocument j) :
    ofJson? j = some c := by
  obtain ⟨pagination, pages, entities, hpagination, hpages, hentities, hj⟩ := h
  have hnames : ((("baseUrl", Json.text c.baseUrl) :: (pages ++ [("entities", entities)])).map
      Prod.fst).Sublist ["baseUrl", "pagination", "entities"] := by
    rw [List.map_cons, List.map_append]
    exact .cons_cons _ (hpages.names.append (.refl _))
  obtain ⟨p, hp, hget⟩ := Json.exists_parts_of_holds hj hnames (by decide)
  have hbaseUrl : p.read "baseUrl" Json.string? = some c.baseUrl := by
    rw [Json.Parts.read, hget]
    rfl
  have hpolicy : p.readD "pagination" Pagination.ofJson? {} = some c.pagination := by
    refine hpages.readD ?_ (Pagination.ofJson?_of_isDocument hpagination) Eq.symm
    rw [hget]
    show (pages ++ [("entities", entities)]).lookup "pagination" = _
    rw [List.lookup_append]
    exact Option.or_none
  have hread : p.read "entities" (Json.nameMap? Entity.ofJson?) = some c.entities := by
    rw [Json.Parts.read, hget]
    show ((pages ++ [("entities", entities)]).lookup "entities").bind _ = _
    rw [List.lookup_append, hpages.lookup_of_ne (by decide), Option.none_or]
    exact Json.nameMap?_of_holdsMap (fun _ _ h => Entity.ofJson?_of_isDocument h) hentities
  rw [ofJson?, hp]
  simp [hbaseUrl, hpolicy, hread]

theorem plain_toJson (c : Config) : c.toJson.Plain := by
  have hcolumn (column : Column) : column.toJson.Plain :=
    .record (by simp [Json.Plain.text])
  have hentity (e : Entity) : e.toJson.Plain :=
    .record (by simp [Json.Plain.text, Json.plain_ofNameMap hcolumn])
  have hpagination : c.pagination.toJson.Plain :=
    .record (by simp [Json.Plain.word])
  exact .record (by simp [Json.Plain.text, hpagination, Json.plain_ofNameMap hentity])

theorem load_of_spells {c : Config} {j : Json} {text : String} (hj : c.IsDocument j)
    (ht : j.Spells text.toList) (explain : String → String) (path : String) :
    load explain path (.file text.toUTF8) = .ok c := by
  have hutf8 : String.fromUTF8? text.toUTF8 = some text := dif_pos text.isValidUTF8
  rw [load, hutf8]
  dsimp only
  rw [Json.ofString?_of_spells ht, Option.bind_some, ofJson?_of_isDocument hj]

/-- What is written for a configuration is read as that configuration, and so is every text of its
documents: with their members in any order, with others that mean nothing, and without the page
sizes that are the usual ones. -/
theorem load_documents (c : Config) (explain : String → String) (path : String) :
    load explain path (.file c.toJson.compact.toUTF8) = .ok c ∧ c.IsDocument c.toJson ∧
      ∀ j, c.IsDocument j → ∀ text : String, j.Spells text.toList →
        load explain path (.file text.toUTF8) = .ok c :=
  ⟨load_of_spells c.isDocument_toJson (Json.spells_compact c.plain_toJson) explain path,
    c.isDocument_toJson, fun _ hj _ ht => load_of_spells hj ht explain path⟩

def teams : Config where
  baseUrl := "http://localhost"
  pagination := ⟨200, 5⟩
  entities := .ofList [("team", ⟨"teams", "/teams", .ofList [("name", ⟨"team_name", .string⟩)]⟩)]

def teamTurned : Json :=
  .record [("fields", .record [("name", .record [("note", .bool true), ("type", .text "string"),
      ("column", .text "team_name")])]),
    ("path", .text "/teams"), ("table", .text "teams")]

/-- A document of it, the other way round, with notes and without the usual size. -/
def teamsTurned : Json :=
  .record [("note", .null), ("entities", .record [("team", teamTurned)]),
    ("pagination", .record [("note", .word 1), ("defaultPageSize", .word 5)]),
    ("baseUrl", .text "http://localhost")]

theorem load_documents_teams_turned :
    teams.IsDocument teamsTurned ∧ teamsTurned.Spells teamsTurned.compact.toList ∧
      load (fun _ => "") "teams.json" (.file teamsTurned.compact.toUTF8) = .ok teams := by
  have hcolumn : Column.IsDocument ⟨"team_name", .string⟩ (.record [
      ("note", .bool true), ("type", .text "string"), ("column", .text "team_name")]) :=
    ⟨[("note", .bool true)], _, by simp, List.reverse_perm _, rfl⟩
  have hentity : Entity.IsDocument
      ⟨"teams", "/teams", .ofList [("name", ⟨"team_name", .string⟩)]⟩ teamTurned :=
    ⟨_, ⟨_, _, .refl _, .cons ⟨rfl, hcolumn⟩ .nil, rfl⟩,
      [], _, List.forall_mem_nil _, List.reverse_perm _, rfl⟩
  have hpagination : Pagination.IsDocument ⟨200, 5⟩
      (.record [("note", .word 1), ("defaultPageSize", .word 5)]) :=
    ⟨[], _, .leftOut rfl, .given, [("note", .word 1)], _, by simp, List.reverse_perm _, rfl⟩
  have hdocument : teams.IsDocument teamsTurned :=
    ⟨_, _, _, hpagination, .given, ⟨_, _, .refl _, .cons ⟨rfl, hentity⟩ .nil, rfl⟩,
      [("note", .null)], _, by simp, List.reverse_perm _, rfl⟩
  have hteam : teamTurned.Plain :=
    .record (by simp [Json.Plain.record, Json.Plain.bool, Json.Plain.text])
  have hplain : teamsTurned.Plain :=
    .record (by simp [Json.Plain.record, Json.Plain.null, Json.Plain.word, Json.Plain.text, hteam])
  have hspells := Json.spells_compact hplain
  exact ⟨hdocument, hspells, (load_documents teams (fun _ => "") "teams.json").2.2 _ hdocument _ hspells⟩

end Config

end FilterQuery
