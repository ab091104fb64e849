import SchemaChecks.Proofs.CompileRun
import SchemaChecks.Proofs.Verdict

/-!
What a configuration that loads has been read from: the value of its file, its sections, and their
fields.
-/

namespace SchemaChecks.Configuration

open Program Host

variable {h : Host} {here : Place} {path : Path} {v : Value} {c : Configuration}

theorem load_eq_ok (loads : h.answer (load path) = .ok c) :
    ∃ text v, h.answer (readText path) = .ok text ∧ readValue text = .ok v ∧
      ofValue h.here path v = .ok c := by
  have hereAnswer : h.answer (perform .here) = h.here := rfl
  simp only [load, answer_bind, after_of_looks exists?_looks] at loads
  split at loads
  · cases loads
  · cases loads
  · simp only [answer_bind, after_of_looks readText_looks] at loads
    split at loads
    · cases loads
    · rename_i text reads
      simp only [answer_bind, answer_pure, hereAnswer] at loads
      obtain ⟨v, reading, made⟩ := exists_of_bind_eq_ok loads
      exact ⟨text, v, reads, reading, made⟩

structure FromSections (here : Place) (path : Path) (schema output : Section) (c : Configuration) :
    Prop where
  source : sourceOf here path.parent schema = .ok c.source
  format : ∃ asked, formatOf schema = .ok asked ∧ c.format = effectiveFormat asked c.source
  collection : optionalText "schema.collection" (field schema "collection") = .ok c.collection
  output : outputOf here path.parent output = .ok c.output

theorem eq_ok_of_mapError {ε ζ α : Type} {f : ε → ζ} {x : Except ε α} {a : α}
    (h : x.mapError f = .ok a) : x = .ok a := by
  cases x with
  | error e => cases h
  | ok b =>
    cases h
    rfl

theorem ofValue_eq_ok (reads : ofValue here path v = .ok c) :
    ∃ schema output, section? (v.entries?.getD []) "schema" = .ok schema ∧
      FromSections here path schema output c ∧ section? (v.entries?.getD []) "output" = .ok output ∧
      optionalText "output.module_doc" (field output "module_doc") = .ok c.moduleDoc ∧
      c.path = path := by
  unfold ofValue at reads
  dsimp only at reads
  split at reads
  case h_3 => cases reads
  all_goals
    obtain ⟨root, started, reads⟩ := exists_of_bind_eq_ok reads
    obtain rfl := Except.ok.inj started
    obtain ⟨schema, schemas, reads⟩ := exists_of_bind_eq_ok reads
    obtain ⟨source, sources, reads⟩ := exists_of_bind_eq_ok reads
    obtain ⟨asked, formats, reads⟩ := exists_of_bind_eq_ok reads
    obtain ⟨collection, collections, reads⟩ := exists_of_bind_eq_ok reads
    obtain ⟨output, outputs, reads⟩ := exists_of_bind_eq_ok reads
    obtain ⟨target, targets, reads⟩ := exists_of_bind_eq_ok reads
    obtain ⟨moduleDoc, docs, reads⟩ := exists_of_bind_eq_ok reads
    obtain rfl := Except.ok.inj reads
    refine ⟨schema, output, eq_ok_of_mapError schemas, ⟨sources, ?_, ?_, targets⟩,
      eq_ok_of_mapError outputs, eq_ok_of_mapError docs, rfl⟩
    · exact ⟨asked, eq_ok_of_mapError formats, rfl⟩
    · exact eq_ok_of_mapError collections

end SchemaChecks.Configuration
