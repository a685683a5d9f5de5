import FilterQuery.Proofs.Filter.Resolution
import FilterQuery.Proofs.Query.Faults
import FilterQuery.Proofs.Query.FirstMisfit
import FilterQuery.Proofs.Query.Heads
import FilterQuery.Proofs.Query.Tiling
import FilterQuery.Session

namespace FilterQuery

open FilterQuery.Text FilterQuery.Query

theorem compileQuery_eq_error_iff {query : String} {fields : Fields} {e : QueryError} :
    compileQuery (some query) fields = .error e ↔
      (∃ d, tokenize query = .error d ∧ e = .lex d) ∨
      (∃ ts d, tokenize query = .ok ts ∧ parse ts = .error d ∧ e = .parse d) ∨
      ∃ ts p d, tokenize query = .ok ts ∧ parse ts = .ok p ∧ p.resolve fields = .error d ∧
        e = .field d := by
  simp only [compileQuery, parseQuery, bind_eq_error_iff, bind_eq_ok_iff, mapError_eq_error_iff,
    mapError_eq_ok_iff]
  constructor
  · rintro ((⟨d, hd, rfl⟩ | ⟨ts, hts, d, hd, rfl⟩) | ⟨p, ⟨ts, hts, hp⟩, d, hd, rfl⟩)
    · exact .inl ⟨d, hd, rfl⟩
    · exact .inr (.inl ⟨ts, d, hts, hd, rfl⟩)
    · exact .inr (.inr ⟨ts, p, d, hts, hp, hd, rfl⟩)
  · rintro (⟨d, hd, rfl⟩ | ⟨ts, d, hts, hd, rfl⟩ | ⟨ts, p, d, hts, hp, hd, rfl⟩)
    · exact .inl (.inl ⟨d, hd, rfl⟩)
    · exact .inl (.inr ⟨ts, hts, d, hd, rfl⟩)
    · exact .inr ⟨p, ⟨ts, hts, hp⟩, d, hd, rfl⟩

namespace Query

/-- The position is where some token starts or where the last one ends. -/
def OnToken (ts : List Token) (position : Nat) : Prop :=
  (∃ t ∈ ts, position = t.span.start) ∨ ∃ us t, ts = us ++ [t] ∧ position = t.span.stop

theorem onToken_of_parse_error {ts : List Token} {e : ParseError} (h : parse ts = .error e) :
    OnToken ts e.position := by
  obtain ⟨hts, hf⟩ := Parser.parse_eq_error_iff.mp h
  cases hf with
  | @token _ _ before t ha hx after => exact .inl ⟨t, by simp, rfl⟩
  | atEnd ha hx =>
    have hlast : ts = ts.dropLast ++ [ts.getLast hts] := (List.dropLast_concat_getLast hts).symm
    refine .inr ⟨ts.dropLast, ts.getLast hts, hlast, ?_⟩
    show Parser.lastStop 0 ts = _
    conv_lhs => rw [hlast]
    exact Parser.lastStop_concat 0 _ _

theorem isValid_of_onToken {query : String} {ts : List Token} {position : Nat}
    (h : tokenize query = .ok ts) (hp : OnToken ts position) :
    String.Pos.Raw.IsValid query ⟨position⟩ := by
  have hcovers := (tokenize_eq_ok_iff_layout.mp h).covers [] rfl rfl
  obtain ⟨t, ht, rfl⟩ | ⟨us, t, rfl, rfl⟩ := hp
  · obtain ⟨cs, hc, -⟩ := hcovers t ht
    exact hc.isValid.1
  · obtain ⟨cs, hc, -⟩ := hcovers t (by simp)
    exact hc.isValid.2

end Query

/-- The response names the position: a boundary between characters of the query and, if the query
has tokens, one of its tokens. -/
structure AtPosition (query : String) (e : QueryError) (position : Nat) : Prop where
  body_eq : e.body =
    .record [("kind", .text e.kind), ("position", .nat position), ("reason", .text e.message)]
  le_size : position ≤ query.utf8ByteSize
  boundary : String.Pos.Raw.IsValid query ⟨position⟩
  onToken : e.kind = "ParseError" → ∃ ts, tokenize query = .ok ts ∧ OnToken ts position

/-- The comparison `c` is the first one of the predicate without a meaning, and its field and its
operator are the two tokens behind `us`, with the comparisons before it in `us`. -/
structure FirstWithout (fields : Fields) (p : Predicate) (ts : List Token) (e : FieldError)
    (before : List (Comparison Literal)) (c : Comparison Literal) (us : List Token) : Prop where
  comparisons_eq : ∃ after, p.comparisons = before ++ c :: after
  resolved : ∀ b ∈ before, ∃ d, b.resolve fields = .ok d
  error : c.resolve fields = .error e
  tokens_eq : ∃ t u vs, ts = us ++ t :: u :: vs ∧ t.kind = .name c.subject ∧
    u.kind = .operator c.operator
  heads_eq : heads (us.map Token.kind) = before.map Comparison.head

/-- The response names the field: the name before an operator in a query that can be read, with no
fault in the comparisons to its left. -/
structure AtField (query : String) (fields : Fields) (e : QueryError) (field : String) : Prop where
  body_eq : e.body =
    .record [("kind", .text e.kind), ("field", .text field), ("reason", .text e.message)]
  first : ∃ ts p d before c us, tokenize query = .ok ts ∧ parse ts = .ok p ∧ e = .field d ∧
    c.subject = field ∧ FirstWithout fields p ts d before c us
  unknown_iff : e.kind = "UnknownFieldError" ↔ fields.get? field = none
  mistyped_iff : e.kind = "TypeCoercionError" ↔ ∃ column, fields.get? field = some column

theorem exists_firstWithout {ts : List Token} {p : Predicate} {fields : Fields} {e : FieldError}
    (hp : parse ts = .ok p) (h : p.resolve fields = .error e) :
    ∃ before c us, FirstWithout fields p ts e before c us := by
  obtain ⟨before, c, after, hc, hb, he⟩ := Criteria.traverse_eq_error_iff.mp h
  have hheads := heads_of_parse hp
  rw [hc, List.map_append, List.map_cons] at hheads
  obtain ⟨ks, ms, hks, hbefore⟩ := exists_of_heads hheads
  obtain ⟨us, vs, rfl, rfl, hvs⟩ := List.map_eq_append_iff.mp hks
  obtain ⟨t, vs, rfl, ht, hvs⟩ := List.map_eq_cons_iff.mp hvs
  obtain ⟨u, vs, rfl, hu, rfl⟩ := List.map_eq_cons_iff.mp hvs
  exact ⟨before, c, us, ⟨after, hc⟩, hb, he, ⟨t, u, vs, rfl, ht, hu⟩, hbefore⟩

theorem atField_of_resolve_error {query : String} {ts : List Token} {p : Predicate}
    {fields : Fields} {e : FieldError} (hts : tokenize query = .ok ts) (hp : parse ts = .ok p)
    (h : p.resolve fields = .error e) : AtField query fields (.field e) e.field := by
  obtain ⟨before, c, us, hfirst⟩ := exists_firstWithout hp h
  obtain ⟨hc, rfl⟩ | ⟨column, value, type, hc, rfl⟩ :=
    Comparison.field_of_resolve_error hfirst.error
  · refine ⟨rfl, ⟨ts, p, _, before, c, us, hts, hp, rfl, rfl, hfirst⟩, ?_, ?_⟩
    · exact iff_of_true rfl hc
    · exact iff_of_false (by simp [QueryError.kind]) (by simp [FieldError.field, hc])
  · refine ⟨rfl, ⟨ts, p, _, before, c, us, hts, hp, rfl, rfl, hfirst⟩, ?_, ?_⟩
    · exact iff_of_false (by simp [QueryError.kind]) (by simp [FieldError.field, hc])
    · exact iff_of_true rfl ⟨column, hc⟩

/-- The response to a rejected query names a position in it or a field, and not both. -/
theorem anchored_of_compileQuery_error {query : String} {fields : Fields} {e : QueryError}
    (h : compileQuery (some query) fields = .error e) :
    (∃ position, AtPosition query e position) ∨ ∃ field, AtField query fields e field := by
  obtain ⟨d, hd, rfl⟩ | ⟨ts, d, hts, hd, rfl⟩ | ⟨ts, p, d, hts, hp, hd, rfl⟩ :=
    compileQuery_eq_error_iff.mp h
  · obtain ⟨before, after, hq, hposition⟩ := boundary_of_tokenize_error hd
    have hvalid := isValid_of_append hq
    rw [← hposition] at hvalid
    refine .inl ⟨d.position, rfl, hvalid.le_rawEndPos, hvalid, fun hkind => ?_⟩
    simp [QueryError.kind] at hkind
  · have htoken := onToken_of_parse_error hd
    have hvalid := isValid_of_onToken hts htoken
    exact .inl ⟨d.position, rfl, hvalid.le_rawEndPos, hvalid, fun _ => ⟨ts, hts, htoken⟩⟩
  · exact .inr ⟨d.field, atField_of_resolve_error hts hp hd⟩

theorem anchored_of_compileQuery_error_first_field :
    let query := "größe=='ü' and ghost=in=(1,2) or geist==3"
    let fields : Fields := .ofList [("größe", ⟨"size", .string⟩)]
    let e : QueryError := .field (.unknown "ghost")
    compileQuery (some query) fields = .error e ∧
      ((∃ position, AtPosition query e position) ∨ ∃ field, AtField query fields e field) := by
  intro query fields e
  have h : compileQuery (some query) fields = .error e := by decide +kernel
  exact ⟨h, anchored_of_compileQuery_error h⟩

end FilterQuery
