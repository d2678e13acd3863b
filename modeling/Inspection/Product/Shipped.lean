import Inspection.Json.Basic

/-!
# Shipped products

The products that come with the program, as documents.
-/

namespace Inspection.Product

/-- A bolt: its length within tolerances, and its torque over a required margin. -/
def hexBolt : Json :=
  .record [
    ("type", .text "product_spec"), ("product_id", .text "hex_bolt"), ("name", .text "M8 hex bolt"),
    ("category", .text "Fasteners"),
    ("measurement_points", .list [
      .record [
        ("name_id", .text "shank_length"),
        ("setup", .record [
          ("name", .text "Shank length"), ("nature", .text "QUANTITATIVE"),
          ("type", .text "SINGLE"), ("source", .text "MANUAL"), ("sample_amount", .int 3)]),
        ("evaluation_type", .text "PER_SAMPLE"),
        ("evaluation_setting", .record [("per_sample_setting", .record [("is_raw_data", .bool true)])]),
        ("rule_evaluation_setting", .record [
          ("rule", .text "BETWEEN"), ("value", .int 40), ("unit", .text "mm"),
          ("tolerance_minus", .float 0.2), ("tolerance_plus", .float 0.2)])],
      .record [
        ("name_id", .text "torque"),
        ("setup", .record [
          ("name", .text "Breaking torque"), ("nature", .text "QUANTITATIVE"),
          ("type", .text "SINGLE"), ("source", .text "MANUAL"), ("sample_amount", .int 3)]),
        ("variables", .list [
          .record [
            ("name", .text "safety_factor"), ("type", .text "FIXED"), ("value", .float 1.25)],
          .record [("name", .text "rated"), ("type", .text "MANUAL")],
          .record [
            ("name", .text "required"), ("type", .text "FORMULA"),
            ("formula", .text "rated * safety_factor")]]),
        ("evaluation_type", .text "JOINT"),
        ("evaluation_setting", .record [
          ("joint_setting", .record [
            ("formulas", .list [
              .record [
                ("name", .text "mean_torque"), ("formula", .text "AVG(torque)"),
                ("is_final_value", .bool false)],
              .record [
                ("name", .text "margin"), ("formula", .text "mean_torque - required"),
                ("is_final_value", .bool true)]])])]),
        ("rule_evaluation_setting", .record [("rule", .text "MIN"), ("value", .int 0), ("unit", .text "Nm")])]])]

/-- A plate: items that are measured, judged, read by an instrument, and derived. -/
def steelPlate : Json :=
  .record [
    ("type", .text "product_spec"), ("product_id", .text "steel_plate"),
    ("name", .text "Cold-rolled steel plate"), ("category", .text "Sheet metal"),
    ("description", .text "Incoming inspection for 14.4 mm cold-rolled plate"),
    ("measurement_points", .list [
      .record [
        ("name_id", .text "thickness_a"),
        ("setup", .record [
          ("name", .text "Thickness A"), ("nature", .text "QUANTITATIVE"),
          ("type", .text "SINGLE"), ("source", .text "MANUAL"), ("sample_amount", .int 5)]),
        ("evaluation_type", .text "PER_SAMPLE"),
        ("evaluation_setting", .record [("per_sample_setting", .record [("is_raw_data", .bool true)])]),
        ("rule_evaluation_setting", .record [
          ("rule", .text "BETWEEN"), ("value", .float 14.4), ("unit", .text "mm"),
          ("tolerance_minus", .float 0.3), ("tolerance_plus", .float 0.3)])],
      .record [
        ("name_id", .text "thickness_b"),
        ("setup", .record [
          ("name", .text "Thickness B (deviation from A)"), ("nature", .text "QUANTITATIVE"),
          ("type", .text "SINGLE"), ("source", .text "MANUAL"), ("sample_amount", .int 5)]),
        ("variables", .list [
          .record [
            ("name", .text "avg_a"), ("type", .text "FORMULA"),
            ("formula", .text "AVG(thickness_a)")]]),
        ("pre_processing_formulas", .list [
          .record [
            ("name", .text "deviation"), ("formula", .text "single_value - avg_a"),
            ("is_show", .bool true)]]),
        ("evaluation_type", .text "PER_SAMPLE"),
        ("evaluation_setting", .record [
          ("per_sample_setting", .record [
            ("is_raw_data", .bool false), ("pre_processing_formula_name", .text "deviation")])]),
        ("rule_evaluation_setting", .record [
          ("rule", .text "BETWEEN"), ("value", .int 0), ("unit", .text "mm"),
          ("tolerance_minus", .float 0.5), ("tolerance_plus", .float 0.5)])],
      .record [
        ("name_id", .text "flatness"),
        ("setup", .record [
          ("name", .text "Flatness"), ("nature", .text "QUANTITATIVE"),
          ("type", .text "SINGLE"), ("source", .text "MANUAL"), ("sample_amount", .int 3)]),
        ("evaluation_type", .text "JOINT"),
        ("evaluation_setting", .record [
          ("joint_setting", .record [
            ("formulas", .list [
              .record [
                ("name", .text "mean"), ("formula", .text "AVG(flatness)"),
                ("is_final_value", .bool false)],
              .record [
                ("name", .text "spread"),
                ("formula", .text "max(flatness) - min(flatness)"),
                ("is_final_value", .bool true)]])])]),
        ("rule_evaluation_setting", .record [("rule", .text "MAX"), ("value", .float 0.2), ("unit", .text "mm")])],
      .record [
        ("name_id", .text "coating_rate"),
        ("setup", .record [
          ("name", .text "Coating growth rate"), ("nature", .text "QUANTITATIVE"),
          ("type", .text "BEFORE_AFTER"), ("source", .text "MANUAL"),
          ("sample_amount", .int 3)]),
        ("variables", .list [.record [("name", .text "dry_time"), ("type", .text "MANUAL")]]),
        ("pre_processing_formulas", .list [
          .record [
            ("name", .text "delta"), ("formula", .text "after - before"),
            ("is_show", .bool true)],
          .record [
            ("name", .text "rate"), ("formula", .text "delta / dry_time"),
            ("is_show", .bool true)]]),
        ("evaluation_type", .text "PER_SAMPLE"),
        ("evaluation_setting", .record [
          ("per_sample_setting", .record [
            ("is_raw_data", .bool false), ("pre_processing_formula_name", .text "rate")])]),
        ("rule_evaluation_setting", .record [("rule", .text "MIN"), ("value", .float 0.1), ("unit", .text "um/min")])],
      .record [
        ("name_id", .text "surface_ok"),
        ("setup", .record [
          ("name", .text "Surface finish"), ("nature", .text "QUALITATIVE"),
          ("type", .text "SINGLE"), ("source", .text "MANUAL"), ("sample_amount", .int 3)]),
        ("evaluation_type", .text "SKIP_CHECK"),
        ("evaluation_setting", .record [("qualitative_setting", .record [("label", .text "No visible scratches")])])],
      .record [
        ("name_id", .text "line_temperature"),
        ("setup", .record [
          ("name", .text "Line temperature"), ("nature", .text "QUANTITATIVE"),
          ("type", .text "SINGLE"), ("source", .text "INSTRUMENT"), ("sample_amount", .int 3)]),
        ("evaluation_type", .text "PER_SAMPLE"),
        ("evaluation_setting", .record [("per_sample_setting", .record [("is_raw_data", .bool true)])]),
        ("rule_evaluation_setting", .record [("rule", .text "MAX"), ("value", .int 80), ("unit", .text "degC")])],
      .record [
        ("name_id", .text "thickness_check"),
        ("setup", .record [
          ("name", .text "Thickness minimum check"), ("nature", .text "QUANTITATIVE"),
          ("type", .text "SINGLE"), ("source", .text "DERIVED"),
          ("source_derived_name_id", .text "thickness_a"), ("sample_amount", .int 5)]),
        ("evaluation_type", .text "PER_SAMPLE"),
        ("evaluation_setting", .record [("per_sample_setting", .record [("is_raw_data", .bool true)])]),
        ("rule_evaluation_setting", .record [("rule", .text "MIN"), ("value", .float 14.0), ("unit", .text "mm")])]]),
    ("measurement_groups", .list [
      .record [
        ("group_name", .text "Dimensions"), ("order", .int 1),
        ("measurement_items", .texts ["thickness_a", "thickness_b", "flatness"])],
      .record [
        ("group_name", .text "Coating"), ("order", .int 2),
        ("measurement_items", .texts ["coating_rate", "surface_ok"])]])]

/-- The shipped products under their names. -/
def shipped : List (String × Json) :=
  [("hex_bolt", hexBolt), ("steel_plate", steelPlate)]

end Inspection.Product
