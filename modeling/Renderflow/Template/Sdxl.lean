import Renderflow.Graph.Basic

/-!
# SDXL templates

The layouts of the graphs that SDXL jobs start from. Their nodes and inputs stand in key order.
-/

namespace Renderflow.Template.Sdxl

/-- Text to image. -/
def txt2img : Layout :=
  [ ("sdxl_1", .of "CheckpointLoaderSimple" "Load SDXL Checkpoint"
      [("ckpt_name", .str "sdxl_model.safetensors")]),
    ("sdxl_2", .of "CLIPSetLastLayer" "CLIP Skip -2"
      [("clip", .link ⟨"sdxl_lora", 1⟩),
       ("stop_at_clip_layer", .int (-2))]),
    ("sdxl_3", .of "CLIPTextEncode" "Positive Prompt (SDXL)"
      [("clip", .link ⟨"sdxl_2", 0⟩),
       ("text", .str "POSITIVE PROMPT HERE")]),
    ("sdxl_4", .of "CLIPTextEncode" "Negative Prompt (SDXL)"
      [("clip", .link ⟨"sdxl_2", 0⟩),
       ("text", .str "NEGATIVE PROMPT HERE")]),
    ("sdxl_5", .of "KSampler" "KSampler (SDXL)"
      [("cfg", .float 6.0),
       ("denoise", .float 1.0),
       ("latent_image", .link ⟨"sdxl_8", 0⟩),
       ("model", .link ⟨"sdxl_lora", 0⟩),
       ("negative", .link ⟨"sdxl_4", 0⟩),
       ("positive", .link ⟨"sdxl_3", 0⟩),
       ("sampler_name", .str "euler_ancestral"),
       ("scheduler", .str "normal"),
       ("seed", .int 12345),
       ("steps", .int 30)]),
    ("sdxl_6", .of "VAEDecode" "VAE Decode (SDXL)"
      [("samples", .link ⟨"sdxl_5", 0⟩),
       ("vae", .link ⟨"sdxl_1", 2⟩)]),
    ("sdxl_7", .of "SaveImage" "Save Image (SDXL)"
      [("filename_prefix", .str "sdxlbot/GEN"),
       ("images", .link ⟨"sdxl_6", 0⟩)]),
    ("sdxl_8", .of "BobsLatentNodeAdvanced" "Bobs Latent Optimizer (SDXL)"
      [("aspect_ratio", .str "1:1"),
       ("batch_size", .int 1),
       ("model_type", .str "SDXL"),
       ("mp_size_float", .str "1"),
       ("upscale_by", .float 1.0)]),
    ("sdxl_lora", .of "Power Lora Loader (rgthree)" "Power Lora Loader (SDXL)"
      [("PowerLoraLoaderHeaderWidget", .object [("type", .str "PowerLoraLoaderHeaderWidget")]),
       ("clip", .link ⟨"sdxl_1", 1⟩),
       ("lora_1", .object [("lora", .str "None"), ("on", .bool false), ("strength", .int 0)]),
       ("lora_2", .object [("lora", .str "None"), ("on", .bool false), ("strength", .int 0)]),
       ("lora_3", .object [("lora", .str "None"), ("on", .bool false), ("strength", .int 0)]),
       ("lora_4", .object [("lora", .str "None"), ("on", .bool false), ("strength", .int 0)]),
       ("lora_5", .object [("lora", .str "None"), ("on", .bool false), ("strength", .int 0)]),
       ("model", .link ⟨"sdxl_1", 0⟩),
       ("➕ Add Lora", .str "")]),
    ("sdxl_preview", .of "PreviewImage" "SDXL Preview"
      [("images", .link ⟨"sdxl_6", 0⟩)]) ]

/-- Image to image. -/
def img2img : Layout :=
  [ ("sdxl_1", .of "CheckpointLoaderSimple" "Load SDXL Checkpoint"
      [("ckpt_name", .str "sdxl_model.safetensors")]),
    ("sdxl_2", .of "CLIPSetLastLayer" "CLIP Skip -2 (Img2Img)"
      [("clip", .link ⟨"sdxl_lora", 1⟩),
       ("stop_at_clip_layer", .int (-2))]),
    ("sdxl_3", .of "CLIPTextEncode" "Positive Prompt (SDXL Img2Img)"
      [("clip", .link ⟨"sdxl_2", 0⟩),
       ("text", .str "POSITIVE PROMPT HERE")]),
    ("sdxl_4", .of "CLIPTextEncode" "Negative Prompt (SDXL Img2Img)"
      [("clip", .link ⟨"sdxl_2", 0⟩),
       ("text", .str "NEGATIVE PROMPT HERE")]),
    ("sdxl_5", .of "KSampler" "KSampler (SDXL Img2Img)"
      [("cfg", .float 6.0),
       ("denoise", .float 0.75),
       ("latent_image", .link ⟨"sdxl_i2i_vae_encode", 0⟩),
       ("model", .link ⟨"sdxl_lora", 0⟩),
       ("negative", .link ⟨"sdxl_4", 0⟩),
       ("positive", .link ⟨"sdxl_3", 0⟩),
       ("sampler_name", .str "euler"),
       ("scheduler", .str "karras"),
       ("seed", .int 12345),
       ("steps", .int 30)]),
    ("sdxl_6", .of "VAEDecode" "VAE Decode (SDXL Img2Img)"
      [("samples", .link ⟨"sdxl_5", 0⟩),
       ("vae", .link ⟨"sdxl_1", 2⟩)]),
    ("sdxl_7", .of "SaveImage" "Save Image (SDXL Img2Img)"
      [("filename_prefix", .str "sdxlbot/GEN_I2I"),
       ("images", .link ⟨"sdxl_6", 0⟩)]),
    ("sdxl_i2i_load", .of "LoadImageFromUrlOrPath" "Load Image for Img2Img"
      [("url_or_path", .str "IMAGE_URL_HERE")]),
    ("sdxl_i2i_preview", .of "PreviewImage" "SDXL Img2Img Preview"
      [("images", .link ⟨"sdxl_6", 0⟩)]),
    ("sdxl_i2i_resize", .of "TenosResizeToTargetPixels" "Tenos Resize to ~1M Pixels (Img2Img)"
      [("image", .link ⟨"sdxl_i2i_load", 0⟩),
       ("interpolation", .str "bicubic")]),
    ("sdxl_i2i_vae_encode", .of "VAEEncode" "VAE Encode for Img2Img"
      [("pixels", .link ⟨"sdxl_i2i_resize", 0⟩),
       ("vae", .link ⟨"sdxl_1", 2⟩)]),
    ("sdxl_lora", .of "Power Lora Loader (rgthree)" "Power Lora Loader (SDXL Img2Img)"
      [("PowerLoraLoaderHeaderWidget", .object [("type", .str "PowerLoraLoaderHeaderWidget")]),
       ("clip", .link ⟨"sdxl_1", 1⟩),
       ("lora_1", .object [("lora", .str "None"), ("on", .bool false), ("strength", .int 0)]),
       ("lora_2", .object [("lora", .str "None"), ("on", .bool false), ("strength", .int 0)]),
       ("lora_3", .object [("lora", .str "None"), ("on", .bool false), ("strength", .int 0)]),
       ("lora_4", .object [("lora", .str "None"), ("on", .bool false), ("strength", .int 0)]),
       ("lora_5", .object [("lora", .str "None"), ("on", .bool false), ("strength", .int 0)]),
       ("model", .link ⟨"sdxl_1", 0⟩),
       ("➕ Add Lora", .str "")]) ]

/-- A variation of an image, weak or strong. -/
def variation : Layout :=
  [ ("sdxl_1", .of "CheckpointLoaderSimple" "Load SDXL Checkpoint"
      [("ckpt_name", .str "sdxl_model.safetensors")]),
    ("sdxl_lora", .of "Power Lora Loader (rgthree)" "Power Lora Loader (SDXL Variation)"
      [("PowerLoraLoaderHeaderWidget", .object [("type", .str "PowerLoraLoaderHeaderWidget")]),
       ("clip", .link ⟨"sdxl_1", 1⟩),
       ("lora_1", .object [("lora", .str "None"), ("on", .bool false), ("strength", .int 0)]),
       ("lora_2", .object [("lora", .str "None"), ("on", .bool false), ("strength", .int 0)]),
       ("lora_3", .object [("lora", .str "None"), ("on", .bool false), ("strength", .int 0)]),
       ("lora_4", .object [("lora", .str "None"), ("on", .bool false), ("strength", .int 0)]),
       ("lora_5", .object [("lora", .str "None"), ("on", .bool false), ("strength", .int 0)]),
       ("model", .link ⟨"sdxl_1", 0⟩),
       ("➕ Add Lora", .str "")]),
    ("sdxl_var_clip_skip", .of "CLIPSetLastLayer" "CLIP Skip -2"
      [("clip", .link ⟨"sdxl_lora", 1⟩),
       ("stop_at_clip_layer", .int (-2))]),
    ("sdxl_var_ksampler", .of "KSampler" "KSampler (SDXL Variation)"
      [("cfg", .float 6.0),
       ("denoise", .float 0.7),
       ("latent_image", .link ⟨"sdxl_var_vae_encode", 0⟩),
       ("model", .link ⟨"sdxl_lora", 0⟩),
       ("negative", .link ⟨"sdxl_var_neg_prompt", 0⟩),
       ("positive", .link ⟨"sdxl_var_pos_prompt", 0⟩),
       ("sampler_name", .str "euler_ancestral"),
       ("scheduler", .str "karras"),
       ("seed", .int 12345),
       ("steps", .int 30)]),
    ("sdxl_var_load", .of "LoadImageFromUrlOrPath" "Load Image for Variation"
      [("url_or_path", .str "IMAGE_URL_HERE")]),
    ("sdxl_var_neg_prompt", .of "CLIPTextEncode" "Negative Prompt (SDXL)"
      [("clip", .link ⟨"sdxl_var_clip_skip", 0⟩),
       ("text", .str "NEGATIVE PROMPT HERE")]),
    ("sdxl_var_pos_prompt", .of "CLIPTextEncode" "Positive Prompt (SDXL)"
      [("clip", .link ⟨"sdxl_var_clip_skip", 0⟩),
       ("text", .str "POSITIVE PROMPT HERE")]),
    ("sdxl_var_resize", .of "TenosResizeToTargetPixels" "Tenos Resize to ~1M Pixels"
      [("image", .link ⟨"sdxl_var_load", 0⟩),
       ("interpolation", .str "bicubic")]),
    ("sdxl_var_save_image", .of "SaveImage" "Save Image (SDXL Variation)"
      [("filename_prefix", .str "sdxlbot/VAR"),
       ("images", .link ⟨"sdxl_var_vae_decode", 0⟩)]),
    ("sdxl_var_vae_decode", .of "VAEDecode" "VAE Decode (SDXL)"
      [("samples", .link ⟨"sdxl_var_ksampler", 0⟩),
       ("vae", .link ⟨"sdxl_1", 2⟩)]),
    ("sdxl_var_vae_encode", .of "VAEEncode" "VAE Encode for Variation"
      [("pixels", .link ⟨"sdxl_var_resize", 0⟩),
       ("vae", .link ⟨"sdxl_1", 2⟩)]) ]

/-- A tiled upscale of an image. -/
def upscale : Layout :=
  [ ("sdxl_1", .of "CheckpointLoaderSimple" "Load SDXL Checkpoint"
      [("ckpt_name", .str "sdxl_model.safetensors")]),
    ("sdxl_lora", .of "Power Lora Loader (rgthree)" "Power Lora Loader (SDXL Upscale)"
      [("PowerLoraLoaderHeaderWidget", .object [("type", .str "PowerLoraLoaderHeaderWidget")]),
       ("clip", .link ⟨"sdxl_1", 1⟩),
       ("lora_1", .object [("lora", .str "None"), ("on", .bool false), ("strength", .int 0)]),
       ("lora_2", .object [("lora", .str "None"), ("on", .bool false), ("strength", .int 0)]),
       ("lora_3", .object [("lora", .str "None"), ("on", .bool false), ("strength", .int 0)]),
       ("lora_4", .object [("lora", .str "None"), ("on", .bool false), ("strength", .int 0)]),
       ("lora_5", .object [("lora", .str "None"), ("on", .bool false), ("strength", .int 0)]),
       ("model", .link ⟨"sdxl_1", 0⟩),
       ("➕ Add Lora", .str "")]),
    ("sdxl_up_helper_latent", .of "BobsLatentNodeAdvanced" "Bobs Upscale Param Calculator (SDXL)"
      [("aspect_ratio", .str "1:1"),
       ("batch_size", .int 1),
       ("model_type", .str "SDXL"),
       ("mp_size_float", .str "1"),
       ("upscale_by", .float 1.85)]),
    ("sdxl_up_load", .of "LoadImageFromUrlOrPath" "Load Image for Upscaling"
      [("url_or_path", .str "IMAGE_URL_HERE")]),
    ("sdxl_up_model_loader", .of "UpscaleModelLoader" "Load Upscale Model"
      [("model_name", .str "4x-UltraSharp.pth")]),
    ("sdxl_up_save", .of "SaveImage" "Save Upscaled Image (SDXL)"
      [("filename_prefix", .str "sdxlbot/UPSCALES"),
       ("images", .link ⟨"sdxl_up_ultimate", 0⟩)]),
    ("sdxl_up_ultimate", .of "UltimateSDUpscale" "Ultimate SD Upscale (SDXL)"
      [("cfg", .float 5.0),
       ("denoise", .float 0.15),
       ("force_uniform_tiles", .bool true),
       ("image", .link ⟨"sdxl_up_load", 0⟩),
       ("mask_blur", .int 16),
       ("mode_type", .str "Linear"),
       ("model", .link ⟨"sdxl_lora", 0⟩),
       ("negative", .link ⟨"sdxl_upscale_neg_prompt", 0⟩),
       ("positive", .link ⟨"sdxl_upscale_pos_prompt", 0⟩),
       ("sampler_name", .str "euler"),
       ("scheduler", .str "karras"),
       ("seam_fix_denoise", .float 0.4),
       ("seam_fix_mask_blur", .int 8),
       ("seam_fix_mode", .str "Half Tile + Intersections"),
       ("seam_fix_padding", .int 32),
       ("seam_fix_width", .int 64),
       ("seed", .int 12345),
       ("steps", .int 16),
       ("tile_height", .link ⟨"sdxl_up_helper_latent", 2⟩),
       ("tile_padding", .int 32),
       ("tile_width", .link ⟨"sdxl_up_helper_latent", 1⟩),
       ("tiled_decode", .bool true),
       ("upscale_by", .link ⟨"sdxl_up_helper_latent", 3⟩),
       ("upscale_model", .link ⟨"sdxl_up_model_loader", 0⟩),
       ("vae", .link ⟨"sdxl_1", 2⟩)]),
    ("sdxl_upscale_clip_skip", .of "CLIPSetLastLayer" "CLIP Skip -2 (Upscale)"
      [("clip", .link ⟨"sdxl_lora", 1⟩),
       ("stop_at_clip_layer", .int (-2))]),
    ("sdxl_upscale_neg_prompt", .of "CLIPTextEncode" "Upscale Negative Prompt (SDXL)"
      [("clip", .link ⟨"sdxl_upscale_clip_skip", 0⟩),
       ("text", .str "UPSCALE NEGATIVE HERE")]),
    ("sdxl_upscale_pos_prompt", .of "CLIPTextEncode" "Upscale Positive Prompt (SDXL)"
      [("clip", .link ⟨"sdxl_upscale_clip_skip", 0⟩),
       ("text", .str "UPSCALE PROMPT HERE")]) ]

end Renderflow.Template.Sdxl
