import Splice.Proofs.Tagging
import Splice.Splicer

/-!
# Templates and the templates that they name

Rendering a template has two parts. Taking it apart has nothing to do with the world: the segments
of a template, or the error of its scan, are a matter of the settings (`Settings.pieces`), and all
that happens in the world is an entry in the log. Only then are the segments rendered, so a template
that does not scan leaves everything as it was.

A nested hook renders the template that the code of a block names. What that comes to is what
rendering the template comes to, in a world in which the code has been asked for.
-/

open Splice.Action

namespace Splice

/-- A world in which one more code has been asked for. -/
def World.asking (w : World) (code : String) : World :=
  { w with calls := w.calls ++ [code] }

namespace Action

theorem outcome_recordCall (code : String) (w : World) :
    outcome (recordCall code) w = (.ok (), w.asking code) :=
  rfl

/-- Looking a name up finds what it stands for. -/
theorem outcome_lookup {w : World} {name : String} {o : Object} (h : w.env.get? name = some o) :
    outcome (lookup name) w = (.ok o, w) := by
  rw [lookup, outcome_bind, outcome_get]
  simp only [h]
  rfl

theorem outcome_lookup_of_none {w : World} {name : String} (h : w.env.get? name = none) :
    outcome (lookup name) w = (.error (.missingKey (.new (.text name))), w) := by
  rw [lookup, outcome_bind, outcome_get]
  simp only [h]
  rfl

end Action

namespace Settings

variable (s : Settings)

/-- The segments of a template with these settings, or the error that its scan ends with. -/
def pieces (template : String) : Except ScanError (List Segment) :=
  (s.delimiters.scan template).result.map fun scanned =>
    if s.trim then Margin.trim scanned else scanned

theorem pieces_of_scan {template : String} {segs : List Segment} (htrim : s.trim = false)
    (h : s.delimiters.scan template = ⟨segs, none⟩) : s.pieces template = .ok segs := by
  rw [pieces, h, htrim]
  rfl

theorem pieces_of_scan_error {template : String} {segs : List Segment} {e : ScanError}
    (h : s.delimiters.scan template = ⟨segs, some e⟩) : s.pieces template = .error e := by
  rw [pieces, h]
  rfl

/-- The world after a template has been taken apart: that has been noted in the log. -/
def scanned (segs : List Segment) (w : World) : World :=
  w.noting .splicing
    ("Scanned " ++ toString segs.length ++ " segments (trim=" ++ shown s.trim ++ ")")

theorem outcome_segments_of_ok {template : String} {segs : List Segment}
    (h : s.pieces template = .ok segs) (w : World) :
    outcome (s.segments template) w = (.ok segs, s.scanned segs w) := by
  rw [segments, Delimiters.segments]
  cases hscan : (s.delimiters.scan template).result with
  | ok found =>
    rw [pieces, hscan] at h
    cases h
    rfl
  | error e =>
    rw [pieces, hscan] at h
    cases h

theorem outcome_segments_of_error {template : String} {e : ScanError}
    (h : s.pieces template = .error e) (w : World) :
    outcome (s.segments template) w = (.error (.ofScan e), w) := by
  rw [segments, Delimiters.segments]
  cases hscan : (s.delimiters.scan template).result with
  | ok found =>
    rw [pieces, hscan] at h
    cases h
  | error e' =>
    rw [pieces, hscan] at h
    cases h
    rfl

variable {t : Transform} {template : String}

/-- A template that scans is rendered segment by segment. -/
theorem outcome_render_of_ok {segs : List Segment} (h : s.pieces template = .ok segs) (w : World) :
    outcome (s.render t template) w =
      outcome ((s.renderer t).render segs) (s.scanned segs w) := by
  rw [render, outcome_bind, s.outcome_segments_of_ok h]

theorem outcome_renderLines_of_ok {segs : List Segment} (h : s.pieces template = .ok segs)
    (w : World) :
    outcome (s.renderLines t template) w =
      outcome ((s.renderer t).renderLines segs) (s.scanned segs w) := by
  rw [renderLines, outcome_bind, s.outcome_segments_of_ok h]

/-- A template that does not scan fails as its scan does, and nothing else happens. -/
theorem outcome_render_of_error {e : ScanError} (h : s.pieces template = .error e) (w : World) :
    outcome (s.render t template) w = (.error (.ofScan e), w) := by
  rw [render, outcome_bind, s.outcome_segments_of_error h]

theorem outcome_renderLines_of_error {e : ScanError} (h : s.pieces template = .error e)
    (w : World) : outcome (s.renderLines t template) w = (.error (.ofScan e), w) := by
  rw [renderLines, outcome_bind, s.outcome_segments_of_error h]

end Settings

namespace Hook

variable {s : Settings} {inner : Hook} {code : String} {w : World}

/-- A nested hook renders the template that the code names, and its text is the value. -/
theorem outcome_run_nested {template : String} {o : Object} (hname : w.env.get? code = some o)
    (htemplate : templateOf o.value = .ok template) :
    outcome ((nested s inner).run code) w =
      outcome ((fun text => Object.new (.text text)) <$> s.render inner.run template)
        (w.asking code) := by
  rw [run, outcome_bind, outcome_recordCall]
  simp only
  rw [outcome_bind, outcome_lookup (show (w.asking code).env.get? code = some o from hname)]
  simp only [htemplate]
  rw [map_eq_pure_bind]

/-- A nested hook fails for a code that is no name. -/
theorem outcome_run_nested_of_none (hname : w.env.get? code = none) :
    outcome ((nested s inner).run code) w =
      (.error (.missingKey (.new (.text code))), w.asking code) := by
  rw [run, outcome_bind, outcome_recordCall]
  simp only
  rw [outcome_bind, outcome_lookup_of_none (show (w.asking code).env.get? code = none from hname)]

/-- A nested hook fails for a name of something that is no template. -/
theorem outcome_run_nested_of_error {o : Object} {f : Fault} (hname : w.env.get? code = some o)
    (htemplate : templateOf o.value = .error f) :
    outcome ((nested s inner).run code) w = (.error (.ofFault f), w.asking code) := by
  rw [run, outcome_bind, outcome_recordCall]
  simp only
  rw [outcome_bind, outcome_lookup (show (w.asking code).env.get? code = some o from hname)]
  simp only [htemplate]
  rw [outcome_throw]

end Hook

end Splice
