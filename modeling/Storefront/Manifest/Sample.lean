/-!
# Manifest — the sample

A small manifest whose catalog obeys every rule and has no flaw. It
shows how a manifest is written.
-/

namespace Storefront.Manifest

/-- The lines of the sample manifest. -/
def sampleLines : List String :=
  ["# Sample shopgen catalog",
    "#",
    "# Generate code from it with:",
    "#   shopgen generate definitions --catalog catalog.toml",
    "",
    "[[info]]",
    "module_name = \"sword_info\"",
    "name = \"Crystal Sword\"",
    "description = \"A blade that never dulls\"",
    "short_description = \"Sword\"",
    "",
    "[[info]]",
    "module_name = \"potion_info\"",
    "name = \"Health Potion\"",
    "description = \"Restores health when consumed\"",
    "short_description = \"Potion\"",
    "",
    "[[info]]",
    "module_name = \"cape_info\"",
    "name = \"Royal Cape\"",
    "description = \"Cosmetic cape for true royalty\"",
    "short_description = \"Cape\"",
    "",
    "[[entitlements]]",
    "class_name = \"crystal_sword\"",
    "info_module = \"sword_info\"",
    "parent_class = \"island_entitlement\"",
    "icon = \"Textures.T_CrystalSword\"",
    "consequential_to_gameplay = true",
    "",
    "[[entitlements]]",
    "class_name = \"health_potion\"",
    "info_module = \"potion_info\"",
    "parent_class = \"island_entitlement\"",
    "icon = \"Textures.T_HealthPotion\"",
    "consequential_to_gameplay = true",
    "max_count = 10",
    "consumable = true",
    "",
    "[[entitlements]]",
    "class_name = \"royal_cape\"",
    "info_module = \"cape_info\"",
    "parent_class = \"cosmetic_entitlement\"",
    "icon = \"Textures.T_RoyalCape\"",
    "",
    "[[offers]]",
    "class_name = \"crystal_sword_offer\"",
    "info_module = \"sword_info\"",
    "entitlement_type = \"crystal_sword\"",
    "icon = \"Textures.T_CrystalSword\"",
    "price = 500",
    "",
    "[[offers]]",
    "class_name = \"health_potion_offer\"",
    "info_module = \"potion_info\"",
    "entitlement_type = \"health_potion\"",
    "icon = \"Textures.T_HealthPotion\"",
    "price = 100",
    "",
    "[[offers]]",
    "class_name = \"royal_cape_offer\"",
    "info_module = \"cape_info\"",
    "entitlement_type = \"royal_cape\"",
    "icon = \"Textures.T_RoyalCape\"",
    "price = 800",
    "",
    "[[bundles]]",
    "class_name = \"adventurer_bundle\"",
    "name = \"Adventurer Bundle\"",
    "description = \"A sword and a stack of potions\"",
    "short_description = \"Adventurer\"",
    "icon = \"Textures.T_AdventurerBundle\"",
    "price = 900",
    "items = [",
    "    \x7b offer = \"crystal_sword_offer\", quantity = 1 \x7d,",
    "    \x7b offer = \"health_potion_offer\", quantity = 5 \x7d,",
    "]"]

/-- The sample manifest. -/
def sample : String :=
  String.join (sampleLines.map fun l => l ++ "\n")

/-- The name of the sample's origin. -/
def sampleLabel : String := "built-in sample"

end Storefront.Manifest
