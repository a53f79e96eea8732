import MarkupAudit.Settings.Value

/-!
# Packaged settings

The settings that hold when nothing else is loaded.
-/

namespace MarkupAudit.Settings

/-- The packaged switches of a rule. -/
def packagedRule (counter : Bool) : Value :=
  .object [(.key "enabled", .bool true), (.key "counter_enabled", .bool counter)]

/-- The packaged settings. -/
def packaged : Value :=
  .object
    [(.key "debug", .object [(.key "level", .str "WARNING")]),
     (.key "audit", .object
       [(.key "workers", .int 1),
        (.key "extensions",
          .list [.str ".html", .str ".htm", .str ".jinja", .str ".jinja2", .str ".j2"])]),
     (.key "rules", .object
       [(.key "Accessibility.AvoidGenericLinkTextCounter", packagedRule true),
        (.key "Accessibility.IframeHasTitle", packagedRule false),
        (.key "Accessibility.NoTitleAttribute", packagedRule false)])]

end MarkupAudit.Settings
