import AdFilter.Engine.Basic
import AdFilter.Text.Json

/-!
# The statistics in writing

What the engine tells about itself, written as JSON.
-/

namespace AdFilter.Report

open Text

/-- A time, in seconds and nanoseconds since the start of the count. -/
def time (ms : Int) : Json :=
  .object [("secs_since_epoch".toList, .number (ms / 1000).toNat),
    ("nanos_since_epoch".toList, .number ((ms % 1000).toNat * 1000000))]

/-- What is known of a list. -/
def source (s : SourceStatus) : Json :=
  .object [("name".toList, .text s.source.name), ("url".toList, .text s.source.url),
    ("outcome".toList, .ofOption (.text ·.label) s.outcome),
    ("last_updated".toList, .ofOption time s.updated),
    ("domains".toList, .number s.counts.domains), ("patterns".toList, .number s.counts.patterns)]

/-- The counters. -/
def counters (c : Counters) : Json :=
  .object [("checked".toList, .number c.checked), ("blocked".toList, .number c.blocked),
    ("blocked_by_kind".toList,
      .array (c.byKind.map fun (k, n) => .array [.text k.label, .number n])),
    ("navigations_suppressed".toList, .number c.suppressed),
    ("navigations_redirected".toList, .number c.redirected),
    ("refresh_passes".toList, .number c.passes)]

/-- What the engine tells about itself. It has been started up whenever it is asked. -/
def statistics (s : Engine.Statistics) : Json :=
  .object [("enabled".toList, .bool s.enabled), ("initialized".toList, .bool true),
    ("domains".toList, .number s.counts.domains), ("patterns".toList, .number s.counts.patterns),
    ("last_update".toList, .ofOption time s.updated),
    ("sources".toList, .array (s.sources.map source)),
    ("failed_sources".toList, .array (s.failed.map .text)),
    ("counters".toList, counters s.counters)]

end AdFilter.Report
