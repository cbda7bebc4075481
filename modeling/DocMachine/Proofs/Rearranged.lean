import DocMachine.Proofs.Includes
import DocMachine.Proofs.Permuted

/-!
# Documents whose keys come in another order

Two documents that are written alike but for the order of keys where it should not count: the keys of an
op invocation, and the variables that are set.

* `Op.Rearranged`: elements of run lists that are the same, or invoke an op with its keys in another
  order.
* `Value.Rearranged`: documents that are rearranged in their run lists and in what they set, and so are
  the documents that they include, at any depth.
* `Procedure.Rearranged`: procedures that can be told apart only so.

Results:
1. `Op.Rearranged.classify`: rearranged elements stand for the same literal, or for an op with parameters
   that shuffle whatever they overlay.
2. `Flow.loopEnd?_rearranged`, `Flow.branchEnd?_rearranged` and `Flow.blockEnd_rearranged`: control words
   find their partner at the same place.
3. `Procedure.ofValue_rearranged`: rearranged documents are both refused, or are rearranged procedures.
-/

namespace DocMachine

/-! ## Elements of run lists -/

/-- Elements of run lists that are the same, or invoke an op with the keys in another order. -/
inductive Op.Rearranged : Value → Value → Prop
  | same (value : Value) : Rearranged value value
  | invoke {name : String} {params params' : Scope} : params.get? "op" = some (.str name) →
      params.keys.Nodup → params.Perm params' → Rearranged (.obj params) (.obj params')

/-- The same literals, or invocations of the same op with parameters that shuffle whatever they
overlay. -/
inductive Op.Shuffled : Op → Op → Prop
  | literal (value : Value) : Shuffled (.literal value) (.literal value)
  | invoke (name : String) {params params' : Scope} :
      (∀ pending : Scope, (pending.extend (bindings params)).Shuffled
        (pending.extend (bindings params'))) →
      Shuffled (.invoke name params) (.invoke name params')

theorem Op.Shuffled.refl (op : Op) : op.Shuffled op := by
  cases op with
  | literal value => exact .literal value
  | invoke name params => exact .invoke name fun _ => .refl _

namespace Op.Rearranged

variable {value value' : Value}

theorem classify (rearranged : Rearranged value value') :
    Concurs Op.Shuffled (Op.classify value) (Op.classify value') := by
  cases rearranged with
  | same => exact .refl Op.Shuffled.refl _
  | @invoke name params params' named apart perm =>
    have named' : params'.get? "op" = some (.str name) :=
      (Table.get?_perm perm apart "op").symm.trans named
    have invokes : ∀ {params : Scope}, params.get? "op" = some (.str name) →
        Op.classify (.obj params) = .ok (.invoke name params) := by
      intro params named
      simp only [Op.classify, named]
    rw [invokes named, invokes named']
    exact .ok (.invoke name fun pending => pending.shuffled_extend (perm.filter _)
      (apart.sublist (List.filter_sublist.map Prod.fst)))

theorem name? (rearranged : Rearranged value value') : Op.name? value = Op.name? value' := by
  cases rearranged with
  | same => rfl
  | invoke named apart perm =>
    simp only [Op.name?, named, (Table.get?_perm perm apart "op").symm.trans named]

end Op.Rearranged

/-! ## Searches for a partner -/

namespace Flow

variable {ops ops' : List Value}

theorem loopEnd?_rearranged (rearranged : List.Forall₂ Op.Rearranged ops ops') (nested : Nat) :
    loopEnd? nested ops = loopEnd? nested ops' := by
  induction rearranged generalizing nested with
  | nil => rfl
  | cons first _ ih => simp only [loopEnd?, first.name?, ih]

theorem branchEnd?_rearranged (rearranged : List.Forall₂ Op.Rearranged ops ops') (nested : Nat) :
    branchEnd? nested ops = branchEnd? nested ops' := by
  induction rearranged generalizing nested with
  | nil => rfl
  | cons first _ ih => simp only [branchEnd?, first.name?, ih]

theorem blockEnd_rearranged (rearranged : List.Forall₂ Op.Rearranged ops ops') (nested : Nat) :
    blockEnd nested ops = blockEnd nested ops' := by
  induction rearranged generalizing nested with
  | nil => rfl
  | cons first _ ih => simp only [blockEnd, first.name?, ih]

end Flow

/-! ## Documents -/

mutual

/-- Documents that are the same but for the order of the keys of op invocations and of the variables that
are set, also in the documents that they include. -/
inductive Value.Rearranged : Value → Value → Prop
  | same (document : Value) : Value.Rearranged document document
  | sections {sections sections' : Scope} : Sections.Rearranged sections sections' →
      Value.Rearranged (.obj sections) (.obj sections')

/-- The sections of rearranged documents: each is the same, or rearranged in its own way. -/
inductive Sections.Rearranged : Scope → Scope → Prop
  | nil : Sections.Rearranged [] []
  | keep (entry : String × Value) {rest rest' : Scope} : Sections.Rearranged rest rest' →
      Sections.Rearranged (entry :: rest) (entry :: rest')
  | run {ops ops' : List Value} {rest rest' : Scope} : List.Forall₂ Op.Rearranged ops ops' →
      Sections.Rearranged rest rest' →
      Sections.Rearranged (("run", .arr ops) :: rest) (("run", .arr ops') :: rest')
  | set {settings settings' rest rest' : Scope} : settings.keys.Nodup → settings.Perm settings' →
      Sections.Rearranged rest rest' →
      Sections.Rearranged (("set", .obj settings) :: rest) (("set", .obj settings') :: rest')
  | included {includes includes' rest rest' : Scope} : Includes.Rearranged includes includes' →
      Sections.Rearranged rest rest' →
      Sections.Rearranged (("include", .obj includes) :: rest) (("include", .obj includes') :: rest')

/-- The includes of rearranged documents: the same names, with rearranged documents. -/
inductive Includes.Rearranged : Scope → Scope → Prop
  | nil : Includes.Rearranged [] []
  | cons (name : String) {document document' : Value} {rest rest' : Scope} :
      Value.Rearranged document document' → Includes.Rearranged rest rest' →
      Includes.Rearranged ((name, document) :: rest) ((name, document') :: rest')

end

theorem Includes.Rearranged.refl (includes : Scope) : Includes.Rearranged includes includes := by
  induction includes with
  | nil => exact .nil
  | cons entry rest ih => exact .cons entry.1 (.same entry.2) ih

/-- Procedures that are the same but for the order of the keys of op invocations and of the variables that
are set, also in what they include. -/
structure Procedure.Rearranged (procedure procedure' : Procedure) : Prop where
  imports : procedure.imports = procedure'.imports
  includes : Includes.Rearranged procedure.includes procedure'.includes
  set : Table.Overlays procedure.set procedure'.set
  run : List.Forall₂ Op.Rearranged procedure.run procedure'.run

namespace Procedure

variable {procedure procedure' : Procedure}

theorem run_refl (ops : List Value) : List.Forall₂ Op.Rearranged ops ops :=
  List.forall₂_same.mpr fun value _ => .same value

theorem Rearranged.refl (procedure : Procedure) : procedure.Rearranged procedure :=
  ⟨rfl, .refl _, fun _ => rfl, run_refl _⟩

theorem field_rearranged (rearranged : procedure.Rearranged procedure') (key : String) (v : Value) :
    Concurs Rearranged (procedure.field key v) (procedure'.field key v) := by
  obtain ⟨imports, includes, set, run⟩ := rearranged
  unfold field
  split
  · exact .bind (.same _) fun _ _ same => .ok ⟨same, includes, set, run⟩
  · exact .bind (.same _) fun _ _ same => .ok ⟨imports, same ▸ .refl _, set, run⟩
  · exact .bind (.same _) fun _ _ same => .ok ⟨imports, includes, same ▸ fun _ => rfl, run⟩
  · exact .bind (.same _) fun _ _ same => .ok ⟨imports, includes, set, same ▸ run_refl _⟩
  · exact .bind (.same _) fun _ _ _ => .ok ⟨imports, includes, set, run⟩
  · exact .ok ⟨imports, includes, set, run⟩

theorem field_run (procedure : Procedure) (ops : List Value) :
    procedure.field "run" (.arr ops) = .ok { procedure with run := ops } := by
  show (do return { procedure with run := ← Param.sequence TestCase.anything (.arr ops) }) = _
  rw [sequence_anything]
  rfl

theorem record_rearranged (rearranged : procedure.Rearranged procedure') {sections sections' : Scope}
    (alike : Sections.Rearranged sections sections') :
    Concurs Rearranged (Param.record procedure field sections)
      (Param.record procedure' field sections') := by
  induction sections generalizing procedure procedure' sections' with
  | nil =>
    cases alike
    exact .ok rearranged
  | cons entry rest ih =>
    cases alike with
    | keep _ rest => exact .bind (field_rearranged rearranged _ _) fun _ _ next => ih next rest
    | @run ops ops' _ _ alike rest =>
      have first : Concurs Rearranged (procedure.field "run" (.arr ops))
          (procedure'.field "run" (.arr ops')) := by
        rw [field_run, field_run]
        exact .ok { rearranged with run := alike }
      exact .bind first fun _ _ next => ih next rest
    | @set settings settings' _ _ apart perm rest =>
      have next : Rearranged { procedure with set := settings } { procedure' with set := settings' } :=
        { rearranged with set := Table.overlays_of_perm perm apart }
      exact ih next rest
    | @included includes includes' _ _ alike rest =>
      have next : Rearranged { procedure with includes } { procedure' with includes := includes' } :=
        { rearranged with includes := alike }
      exact ih next rest

theorem isReference_rearranged {document document' : Value}
    (rearranged : document.Rearranged document') : isReference document = isReference document' := by
  cases rearranged <;> rfl

theorem find?_rearranged {includes includes' : Scope} (alike : Includes.Rearranged includes includes') :
    (includes.find? fun entry => !isReference entry.2).isSome =
      (includes'.find? fun entry => !isReference entry.2).isSome := by
  induction includes generalizing includes' with
  | nil =>
    cases alike
    rfl
  | cons entry rest ih =>
    cases alike with
    | @cons name document document' _ _ first rest =>
      simp only [List.find?_cons, isReference_rearranged first]
      split
      · rfl
      · exact ih rest

theorem forM_rearranged {ops ops' : List Value} (alike : List.Forall₂ Op.Rearranged ops ops') :
    Concurs Eq (ops.forM fun value => Op.classify value >>= fun _ => pure ())
      (ops'.forM fun value => Op.classify value >>= fun _ => pure ()) := by
  induction alike with
  | nil => exact .same _
  | cons first _ ih => exact .bind (.bind first.classify fun _ _ _ => .ok rfl) fun _ _ _ => ih

/-- Rearranged documents are both refused, or are rearranged procedures. -/
theorem ofValue_rearranged {document document' : Value} (rearranged : document.Rearranged document') :
    Concurs Rearranged (ofValue document) (ofValue document') := by
  cases rearranged with
  | same => exact .refl .refl _
  | @sections sections sections' alike =>
    rw [ofValue_obj, ofValue_obj]
    rcases (record_rearranged (.refl {}) alike).outcomes with
      ⟨fault, fault', read, read'⟩ | ⟨procedure, procedure', read, read', rearranged⟩
    · rw [read, read']
      exact .error
    · rw [read, read']
      simp only
      have referred := find?_rearranged rearranged.includes
      cases refers : procedure.includes.find? fun entry => !isReference entry.2 with
      | some entry =>
        rw [refers] at referred
        obtain ⟨entry', refers'⟩ := Option.isSome_iff_exists.mp referred.symm
        rw [refers']
        exact .error
      | none =>
        have refers' : (procedure'.includes.find? fun entry => !isReference entry.2) = none := by
          rw [← Option.not_isSome_iff_eq_none, ← referred, refers]
          exact Bool.false_ne_true
        rw [refers']
        rcases (forM_rearranged rearranged.run).outcomes with
          ⟨fault, fault', bad, bad'⟩ | ⟨⟨⟩, ⟨⟩, good, good', -⟩
        · rw [bad, bad']
          exact .error
        · rw [good, good']
          exact .ok rearranged

end Procedure

end DocMachine
